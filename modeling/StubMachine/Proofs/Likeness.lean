import StubMachine.Proofs.Raising

/-!
# Two runs that are alike

To tell what plays a part in a run, it is compared with another one, from a state that
differs in what should play none.  A `Likeness` says which states are alike, and which
requests may be made in their stead.  It is a likeness only if whatever the machine looks
at is the same in states that are alike, the private bindings of interfaces apart, and if
states stay alike through every elementary action.

Two actions do **the same** under a likeness (`Likeness.Same`) if from states that are
alike they end in the same way, with the same result, in states that are alike.  **What
elementary actions do the same, and what survives sequencing, all operations do the
same**, if the engines that they use carry out requests that way.  That is shown for each
operation in the modules below this one, once for all likenesses.

An action may look at an object whose private binding differs.  Then what it goes on with
must not depend on it (`Same.objectAt`).
-/

namespace StubMachine

open StubMachine.Action

/-! ## States -/

/-- What a machine has besides its settings, its objects and its frames. -/
structure Contents where
  types : TypeTable
  slots : Array (Array Value)
  reentry : Nat
  stubs : Std.HashMap (UInt32 × UInt32) Stub
  files : Array String
  modules : Std.HashMap String Value
  natives : Array Native
  externals : Std.HashMap String Nat
  pending : Option Catchable
  raised : List Raising
  lastUnhandled : Option Value
  draws : Nat
  events : Array HostEvent
  history : Array ModuleEvent

namespace Machine

def contents (m : Machine) : Contents :=
  ⟨m.types, m.slots, m.reentry, m.stubs, m.files, m.modules, m.natives, m.externals, m.pending,
    m.raised, m.lastUnhandled, m.draws, m.events, m.history⟩

/-- The machine with other contents. -/
def refill (m : Machine) (c : Contents) : Machine :=
  { m with
    types := c.types, slots := c.slots, reentry := c.reentry, stubs := c.stubs, files := c.files
    modules := c.modules, natives := c.natives, externals := c.externals, pending := c.pending
    raised := c.raised, lastUnhandled := c.lastUnhandled, draws := c.draws, events := c.events
    history := c.history }

end Machine

/-- The object as an interface. -/
def Object.asInterface (a : Object) (members : OrderedMap String Member)
    (binding : Option Value) : Object :=
  { a with facet := .interface members binding }

/-- What does not depend on the private binding of an interface. -/
def Object.Blind {α : Type} (g : Object → α) : Prop :=
  ∀ (a : Object) members x y, g (a.asInterface members x) = g (a.asInterface members y)

/-- **Objects that are the same but for a private binding**, of an interface for whose members the
one binding may stand for the other. -/
inductive Object.Like (Binds : OrderedMap String Member → Option Value → Option Value → Prop) :
    Object → Object → Prop
  | refl (a : Object) : Like Binds a a
  | rebound (a : Object) (members : OrderedMap String Member) {x y : Option Value} :
      Binds members x y → Like Binds (a.asInterface members x) (a.asInterface members y)

namespace Object.Like
variable {Binds : OrderedMap String Member → Option Value → Option Value → Prop} {a b : Object}

theorem agree {α : Type} (h : Like Binds a b) (g : Object → α) (blind : Object.Blind g) :
    g b = g a := by
  cases h with
  | refl => rfl
  | rebound a members => exact blind a members _ _

theorem mono {Binds' : OrderedMap String Member → Option Value → Option Value → Prop}
    (h : Like Binds a b) (weaker : ∀ members x y, Binds members x y → Binds' members x y) :
    Like Binds' a b := by
  cases h with
  | refl => exact .refl _
  | rebound a members binds => exact .rebound a members (weaker _ _ _ binds)

theorem eq_of_never (h : Like (fun _ _ _ => False) a b) : b = a := by
  cases h with
  | refl => rfl
  | rebound _ _ never => exact never.elim

/-- A change that leaves facets alone. -/
theorem change (h : Like Binds a b) {f : Object → Object}
    (keeps : ∀ (a : Object) members x, f (a.asInterface members x) = (f a).asInterface members x) :
    Like Binds (f a) (f b) := by
  cases h with
  | refl => exact .refl _
  | rebound a members binds =>
    rw [keeps, keeps]
    exact .rebound _ _ binds

end Object.Like

/-! ## Requests -/

/-- How a loop starts: the parameters of its body and the condition under which it goes on. -/
inductive LoopStart (f : FunctionFacet) : Array Value → Restart → Prop
  | count (first stop step : Float) :
      LoopStart f (firstParameters f [.number first])
        (.count first stop step (0 < f.stub.arity))
  | forever : LoopStart f (firstParameters f []) .forever
  | entries (key : Value) (keys values : List Value) :
      LoopStart f (firstParameters f (key :: values.take 1))
        (.entries (key :: keys).toArray values.toArray 0)

/-- What an accessor of an interface is called with: a getter with nothing, a setter with the
value. -/
inductive AccessorCall (members : OrderedMap String Member) : Value → Arguments → Prop
  | get {name : String} {getter : Value} {setter : Option Value} :
      members.get? name = some (.accessor (some getter) setter) → AccessorCall members getter []
  | set {name : String} {getter : Option Value} {setter : Value} (v : Value) :
      members.get? name = some (.accessor getter (some setter)) →
      AccessorCall members setter [("value", v)]

/-! ## Likenesses -/

/-- **A likeness of states.** -/
structure Likeness where
  /-- The states that are alike. -/
  Rel : Machine → Machine → Prop
  /-- Which private binding may stand for which, of an interface at a place of the store. -/
  Binds : Nat → OrderedMap String Member → Option Value → Option Value → Prop
  /-- The requests that may be made in states that are alike, the one for the other. -/
  Asks : Machine → Machine → Request → Request → Prop
  contents {m n : Machine} : Rel m n → n.contents = m.contents
  location {m n : Machine} : Rel m n → n.location = m.location
  callStack {m n : Machine} : Rel m n → n.callStack = m.callStack
  size {m n : Machine} : Rel m n → n.objects.size = m.objects.size
  objects {m n : Machine} : Rel m n →
    ∀ o : ObjectId, Object.Like (Binds (o.serial - 1)) (m.object o) (n.object o)
  refilled {m n : Machine} : Rel m n → ∀ c : Contents, Rel (m.refill c) (n.refill c)
  updated {m n : Machine} : Rel m n → ∀ (o : ObjectId) {f f' : Object → Object},
    Object.MakesNoFunction f →
    (∀ a b, Object.Like (Binds (o.serial - 1)) a b → Object.Like (Binds (o.serial - 1)) (f a) (f' b)) →
    Rel { m with objects := m.objects.modify (o.serial - 1) f }
      { n with objects := n.objects.modify (o.serial - 1) f' }
  pushed {m n : Machine} : Rel m n → ∀ object : Object,
    Rel { m with objects := m.objects.push object } { n with objects := n.objects.push object }
  reframed {m n : Machine} : Rel m n → ∀ (i : Nat) (f : Frame → Frame),
    Rel { m with frames := m.frames.modify i f } { n with frames := n.frames.modify i f }
  /-- Anyone may call anything, without a private binding. -/
  call {m n : Machine} (function : Value) (arguments : Arguments) : Rel m n →
    Asks m n (.call function arguments none) (.call function arguments none)
  /-- The accessors of an interface are called with its private binding. -/
  accessor {m n : Machine} {o : ObjectId} {members : OrderedMap String Member}
    {x y : Option Value} {function : Value} {arguments : Arguments} : Rel m n →
    (m.object o).facet = .interface members x → (n.object o).facet = .interface members y →
    AccessorCall members function arguments →
    Asks m n (.call function arguments x) (.call function arguments y)
  /-- Loops enter their bodies. -/
  loop {m n : Machine} {f : FunctionFacet} {parameters : Array Value} {restart : Restart} :
    Rel m n → LoopStart f parameters restart →
    Asks m n (.enter f parameters (some restart)) (.enter f parameters (some restart))

/-- **Outcomes that are alike**: the same result or the same failure, in states that are alike. -/
inductive Alike (R : Machine → Machine → Prop) {α : Type} :
    EStateM.Result Failure Machine α → EStateM.Result Failure Machine α → Prop
  | ok {m n : Machine} (a : α) : R m n → Alike R (.ok a m) (.ok a n)
  | error {m n : Machine} (failure : Failure) : R m n →
      Alike R (.error failure m) (.error failure n)

theorem Alike.outcomes {R : Machine → Machine → Prop} {α : Type}
    {r r' : EStateM.Result Failure Machine α} (h : Alike R r r') :
    (∃ a m n, r = .ok a m ∧ r' = .ok a n ∧ R m n) ∨
      ∃ failure m n, r = .error failure m ∧ r' = .error failure n ∧ R m n := by
  cases h with
  | ok a rel => exact .inl ⟨a, _, _, rfl, rfl, rel⟩
  | error failure rel => exact .inr ⟨failure, _, _, rfl, rfl, rel⟩

/-- What follows actions that end alike ends alike if it does from where they end. -/
theorem Alike.bind {R : Machine → Machine → Prop} {α β : Type} {x y : Action α}
    {k k' : α → Action β} {m n : Machine} (first : Alike R (x m) (y n))
    (next : ∀ a m' n', x m = .ok a m' → y n = .ok a n' → R m' n' → Alike R (k a m') (k' a n')) :
    Alike R ((x >>= k) m) ((y >>= k') n) := by
  rw [Action.bind_eq, Action.bind_eq]
  rcases first.outcomes with ⟨a, m', n', left, right, rel⟩ | ⟨failure, m', n', left, right, rel⟩
  · rw [left, right]
    exact next a m' n' left right rel
  · rw [left, right]
    exact .error failure rel

/-- What is done in either case may be done alike. -/
theorem Alike.finally_ {R R' : Machine → Machine → Prop} {α : Type} {x y : Action α}
    {f f' : Machine → Machine} {m n : Machine} (first : Alike R (x m) (y n))
    (done : ∀ m' n', R m' n' → R' (f m') (f' n')) :
    Alike R' (Action.finally_ x f m) (Action.finally_ y f' n) := by
  rw [Action.finally_, Action.finally_]
  rcases first.outcomes with ⟨a, m', n', left, right, rel⟩ | ⟨failure, m', n', left, right, rel⟩
  · rw [left, right]
    exact .ok a (done m' n' rel)
  · rw [left, right]
    exact .error failure (done m' n' rel)

namespace Likeness

/-- **Two actions that do the same** under a likeness. -/
def Same (L : Likeness) {α : Type} (x y : Action α) : Prop :=
  ∀ m n, L.Rel m n → Alike L.Rel (x m) (y n)

/-- Two engines that do the same with requests that may be made the one for the other. -/
structure Engines (L : Likeness) (e e' : Engine) : Prop where
  fuel : e'.fuel = e.fuel
  perform {m n : Machine} {q q' : Request} : L.Rel m n → L.Asks m n q q' →
    Alike L.Rel (e.perform q m) (e'.perform q' n)

variable {L : Likeness} {m n : Machine}

/-- States stay alike through a change of contents that depends on contents. -/
theorem changed (h : L.Rel m n) (f : Contents → Contents) :
    L.Rel (m.refill (f m.contents)) (n.refill (f n.contents)) := by
  rw [L.contents h]
  exact L.refilled h _

theorem quieted (h : L.Rel m n) : L.Rel m.quieted n.quieted :=
  changed h fun c => { c with pending := none }

/-! ## What is looked at -/

theorem types (h : L.Rel m n) : n.types = m.types := congrArg Contents.types (L.contents h)

theorem pending (h : L.Rel m n) : n.pending = m.pending :=
  congrArg Contents.pending (L.contents h)

theorem reentry (h : L.Rel m n) : n.reentry = m.reentry :=
  congrArg Contents.reentry (L.contents h)

theorem function (h : L.Rel m n) (o : ObjectId) :
    (n.object o).function? = (m.object o).function? :=
  (L.objects h o).agree Object.function? fun _ _ _ _ => rfl

theorem text (h : L.Rel m n) (o : ObjectId) (name : String) :
    (n.object o).text? name = (m.object o).text? name :=
  (L.objects h o).agree (Object.text? · name) fun _ _ _ _ => rfl

theorem isFunction (h : L.Rel m n) (v : Value) : n.isFunction v = m.isFunction v := by
  cases v with
  | object o => exact (L.objects h o).agree Object.isFunction fun _ _ _ _ => rfl
  | _ => rfl

theorem typeOf (h : L.Rel m n) (v : Value) : n.typeOf v = m.typeOf v := by
  cases v with
  | object o => exact (L.objects h o).agree Object.type fun _ _ _ _ => rfl
  | _ => rfl

theorem typeName (h : L.Rel m n) (v : Value) :
    n.types.name (n.typeOf v) = m.types.name (m.typeOf v) := by
  rw [types h, typeOf h]

theorem isA (h : L.Rel m n) (v : Value) (t : TypeId) : n.isA v t = m.isA v t := by
  cases v with
  | object o =>
    have blind : Object.Blind fun object => m.types.objectIsA object.type object.isFunction t :=
      fun _ _ _ _ => rfl
    show n.types.objectIsA (n.object o).type (n.object o).isFunction t = _
    rw [types h]
    exact (L.objects h o).agree _ blind
  | _ => rfl

theorem attributeAt (h : L.Rel m n) (o : ObjectId) (k : Key) :
    n.attributeAt? o k = m.attributeAt? o k := by
  have place : (n.object o).attributes = (m.object o).attributes :=
    (L.objects h o).agree Object.attributes fun _ _ _ _ => rfl
  rw [Machine.attributeAt?, place, Machine.attributeAt?]
  congr 1
  funext a
  have stored : (n.object a).get? k = (m.object a).get? k :=
    (L.objects h a).agree (Object.get? · k) fun _ _ _ _ => by cases k <;> rfl
  rw [stored]

theorem attributeNamed (h : L.Rel m n) (o : ObjectId) (name : String) :
    n.attribute? o name = m.attribute? o name := attributeAt h o _

theorem summaryOf (h : L.Rel m n) (detail : Value) : summaryOf n detail = summaryOf m detail := by
  cases detail with
  | object o => simp only [Action.summaryOf, text h]
  | _ => rfl

theorem handler (h : L.Rel m n) (response : Value) (kind : CatchableKind) :
    handler? n response kind = handler? m response kind := by
  cases response with
  | object o => simp only [handler?, text h]
  | _ => rfl

/-! ## Elementary actions -/

namespace Same
variable {α β : Type}

theorem pure (a : α) : L.Same (Pure.pure a) (Pure.pure a) := fun _ _ h => .ok a h

theorem throw (failure : Failure) :
    L.Same (MonadExcept.throw failure : Action α) (MonadExcept.throw failure) :=
  fun _ _ h => .error failure h

theorem bind {x y : Action α} {k k' : α → Action β} (first : L.Same x y)
    (next : ∀ a, L.Same (k a) (k' a)) : L.Same (x >>= k) (y >>= k') :=
  fun m n h => (first m n h).bind fun a m' n' _ _ h' => next a m' n' h'

/-- Going on with what has been found, or without. -/
theorem option {x x' : Action (Option α)} {k k' : Option α → Action β} (first : L.Same x x')
    (found : ∀ a, L.Same (k (some a)) (k' (some a))) (missing : L.Same (k none) (k' none)) :
    L.Same (x >>= k) (x' >>= k') :=
  bind first fun a? => by
    cases a? with
    | some a => exact found a
    | none => exact missing

theorem ite {c : Prop} [Decidable c] {x x' y y' : Action α} (hx : L.Same x x')
    (hy : L.Same y y') : L.Same (if c then x else y) (if c then x' else y') := by
  split
  · exact hx
  · exact hy

/-- Going on unless something is amiss. -/
theorem guarded {c : Prop} [Decidable c] {failure : Failure} {x y : Action α} (h : L.Same x y) :
    L.Same (if c then (MonadExcept.throw failure >>= fun _ : PUnit => x) else x)
      (if c then (MonadExcept.throw failure >>= fun _ : PUnit => y) else y) :=
  .ite (.bind (throw _) fun _ => h) h

/-- Dealing with a failure. -/
theorem recover {x y : Action α} {k k' : Failure → Action α} (first : L.Same x y)
    (next : ∀ failure, L.Same (k failure) (k' failure)) :
    L.Same (tryCatch x k) (tryCatch y k') := by
  intro m n h
  rw [Action.tryCatch_eq, Action.tryCatch_eq]
  rcases (first m n h).outcomes with ⟨a, m', n', left, right, h'⟩ | ⟨failure, m', n', left, right, h'⟩
  · rw [left, right]
    exact .ok a h'
  · rw [left, right]
    exact next failure m' n' h'

theorem read {f : Machine → α} (same : ∀ {m n}, L.Rel m n → f n = f m) :
    L.Same (Action.read f) (Action.read f) := by
  intro m n h
  show Alike L.Rel (.ok (f m) m) (.ok (f n) n)
  rw [same h]
  exact .ok _ h

/-- Looking at contents. -/
theorem look (f : Contents → α) :
    L.Same (Action.read fun m => f m.contents) (Action.read fun m => f m.contents) :=
  read fun {m n} h => by rw [L.contents h]

/-- Changing contents in a way that depends on contents. -/
theorem refill (f : Contents → Contents) :
    L.Same (update fun m => m.refill (f m.contents)) (update fun m => m.refill (f m.contents)) :=
  fun _ _ h => .ok () (changed h f)

/-- **Going on with an object**, in a way that does not depend on its private binding. -/
theorem objectAt (o : ObjectId) {k k' : Object → Action α} (blind : Object.Blind k')
    (next : ∀ a, L.Same (k a) (k' a)) :
    L.Same (Action.objectAt o >>= k) (Action.objectAt o >>= k') := by
  intro m n h
  have agree : k' (n.object o) = k' (m.object o) := (L.objects h o).agree k' blind
  show Alike L.Rel (k (m.object o) m) (k' (n.object o) n)
  rw [agree]
  exact next _ m n h

theorem updateObject (o : ObjectId) {f f' : Object → Object} (makes : Object.MakesNoFunction f)
    (like : ∀ a b, Object.Like (L.Binds (o.serial - 1)) a b →
      Object.Like (L.Binds (o.serial - 1)) (f a) (f' b)) :
    L.Same (Action.updateObject o f) (Action.updateObject o f') :=
  fun _ _ h => .ok () (L.updated h o makes like)

/-- A change to an object that leaves its facet alone. -/
theorem changeObject (o : ObjectId) {f : Object → Object} (makes : Object.MakesNoFunction f)
    (keeps : ∀ (a : Object) members x, f (a.asInterface members x) = (f a).asInterface members x) :
    L.Same (Action.updateObject o f) (Action.updateObject o f) :=
  updateObject o makes fun _ _ h => h.change keeps

/-- A change to an object that overrides its facet. -/
theorem refaceObject (o : ObjectId) {f : Object → Object} (makes : Object.MakesNoFunction f)
    (blind : Object.Blind f) :
    L.Same (Action.updateObject o f) (Action.updateObject o f) := by
  refine updateObject o makes fun a b h => ?_
  rw [h.agree f blind]
  exact .refl _

theorem newObject (object : Object) :
    L.Same (Action.newObject object) (Action.newObject object) := by
  intro m n h
  have fresh : (⟨n.objects.size + 1⟩ : ObjectId) = ⟨m.objects.size + 1⟩ := by rw [L.size h]
  rw [Action.newObject, Action.newObject, fresh]
  exact .ok _ (L.pushed h object)

theorem newBlank : L.Same Action.newBlank Action.newBlank := newObject _

theorem newList (values : Array Value) : L.Same (Action.newList values) (Action.newList values) :=
  .bind (newObject _) fun _ => .pure _

theorem newFunction (f : FunctionFacet) :
    L.Same (Action.newFunction f) (Action.newFunction f) :=
  .bind (newObject _) fun _ => .pure _

theorem isFunction (v : Value) : L.Same (Action.isFunction v) (Action.isFunction v) :=
  read fun h => Likeness.isFunction h v

theorem typeName (v : Value) : L.Same (Action.typeName v) (Action.typeName v) :=
  read fun h => Likeness.typeName h v

theorem updateFrame (i : Nat) (f : Frame → Frame) :
    L.Same (Action.updateFrame i f) (Action.updateFrame i f) :=
  fun _ _ h => .ok () (L.reframed h i f)

/-! ## Going through lists -/

section Lists
variable {γ : Type}

theorem mapM {f f' : γ → Action β} (each : ∀ a, L.Same (f a) (f' a)) (l : List γ) :
    L.Same (l.mapM f) (l.mapM f') := by
  induction l with
  | nil => exact .pure _
  | cons a l ih =>
    rw [List.mapM_cons, List.mapM_cons]
    exact .bind (each a) fun b => .bind ih fun bs => .pure _

theorem forM {f f' : γ → Action PUnit} (each : ∀ a, L.Same (f a) (f' a)) (l : List γ) :
    L.Same (l.forM f) (l.forM f') := by
  induction l with
  | nil => exact .pure _
  | cons a l ih => exact .bind (each a) fun _ => ih

theorem foldlM {f f' : β → γ → Action β} (each : ∀ b a, L.Same (f b a) (f' b a)) (l : List γ) :
    ∀ b, L.Same (l.foldlM f b) (l.foldlM f' b) := by
  induction l with
  | nil => exact fun b => .pure b
  | cons a l ih => exact fun b => .bind (each b a) fun c => ih c

theorem filterM {f f' : γ → Action Bool} (each : ∀ a, L.Same (f a) (f' a)) (l : List γ) :
    L.Same (l.filterM f) (l.filterM f') := by
  suffices h : ∀ kept, L.Same (List.filterAuxM f l kept) (List.filterAuxM f' l kept) from
    .bind (h []) fun kept => .pure _
  induction l with
  | nil => exact fun kept => .pure _
  | cons a l ih => exact fun kept => .bind (each a) fun b => ih _

theorem forIn {f f' : γ → β → Action (ForInStep β)} (each : ∀ a b, L.Same (f a b) (f' a b))
    (l : List γ) : ∀ b, L.Same (ForIn.forIn l b f) (ForIn.forIn l b f') := by
  induction l with
  | nil => exact fun b => .pure b
  | cons a l ih =>
    intro b
    rw [List.forIn_cons, List.forIn_cons]
    refine .bind (each a b) fun next => ?_
    cases next with
    | done b => exact .pure b
    | yield b => exact ih b

end Lists

/-! ## Raising -/

theorem signal (kind : CatchableKind) (payload : Value) :
    L.Same (Action.signal kind payload) (Action.signal kind payload) := by
  intro m n h
  have payloads : n.catchable kind payload = m.catchable kind payload := by
    rw [Machine.catchable, L.location h, Machine.catchable]
  have signalled : L.Rel (m.signalled kind payload) (n.signalled kind payload) := by
    rw [Machine.signalled, Machine.signalled, payloads]
    exact changed h fun c => { c with
      pending := some (m.catchable kind payload)
      raised := ⟨m.catchable kind payload, c.pending⟩ :: c.raised }
  exact .ok () signalled

theorem newCallStack : L.Same Action.newCallStack Action.newCallStack :=
  .bind (read fun h => L.callStack h) fun places =>
    .bind (.mapM (fun _ => .bind (newObject _) fun _ => .pure _) places) fun _ => newList _

theorem raiseError (detail : Value) :
    L.Same (Action.raiseError detail : Action α) (Action.raiseError detail) := by
  refine .bind (.bind (read fun h => Likeness.summaryOf h detail) fun summary => ?_) fun _ => throw _
  exact .bind newCallStack fun stack => .bind (newObject _) fun o => signal _ _

theorem raise (f : Fault) : L.Same (Action.raise f : Action α) (Action.raise f) := raiseError _

theorem raiseSend (payload : Value) :
    L.Same (Action.raiseSend payload : Action α) (Action.raiseSend payload) :=
  .bind (signal _ _) fun _ => throw _

theorem fail (f : Fault) : L.Same (Action.fail f : Action α) (Action.fail f) := throw _

/-- What becomes of the failure of a native function. -/
theorem attempt {x y : Action Value} (first : L.Same x y) :
    L.Same (tryCatch x raiseFailure) (tryCatch y raiseFailure) := by
  refine recover first fun failure => ?_
  cases failure with
  | unhandled _ => exact raiseError _
  | plain _ => exact raiseError _
  | _ => exact throw _

/-! ## Requests -/

section Requests
variable {e e' : Engine} (engines : L.Engines e e')
include engines

theorem call (function : Value) (arguments : Arguments) :
    L.Same (e.call function arguments) (e'.call function arguments) :=
  fun _ _ h => engines.perform h (L.call function arguments h)

theorem enterLoop {f : FunctionFacet} {parameters : Array Value} {restart : Restart}
    (start : LoopStart f parameters restart) :
    L.Same (e.enter f parameters (some restart)) (e'.enter f parameters (some restart)) :=
  fun _ _ h => engines.perform h (L.loop h start)

/-- **Listening does the same** if calling does. -/
theorem listen (function response : Value) :
    L.Same (StubMachine.listen e function response) (StubMachine.listen e' function response) := by
  intro m n h
  rcases (call engines function [] m n h).outcomes with
    ⟨v, m', n', left, right, h'⟩ | ⟨failure, m', n', left, right, h'⟩
  · rw [listen_ok left, listen_ok right]
    exact .ok v h'
  by_cases raised : failure = .unwinding
  · subst raised
    cases onWay : m'.pending with
    | none =>
      have onWay' : n'.pending = none := (pending h').trans onWay
      rw [StubMachine.listen, StubMachine.listen, left, right]
      simp only [onWay, onWay']
      exact .error _ h'
    | some c =>
      have onWay' : n'.pending = some c := (pending h').trans onWay
      rw [listen_unwinding left onWay, listen_unwinding right onWay', respond_eq, respond_eq,
        handler (quieted h')]
      cases handler? m'.quieted response c.kind with
      | some handler => exact call engines handler _ _ _ (quieted h')
      | none =>
        dsimp only
        cases c.kind with
        | send => exact .ok _ (quieted h')
        | error =>
          rw [Machine.quieted_rearmed onWay, Machine.quieted_rearmed onWay']
          exact .error _ h'
  · rw [listen_failure left raised, listen_failure right raised]
    exact .error failure h'

end Requests

/-- The state after an error that escaped has been reported. -/
theorem reported (h : L.Rel m n) (c : Catchable) : L.Rel (m.reported c) (n.reported c) := by
  have told : n.unhandled c = m.unhandled c := by
    simp only [Machine.unhandled, Likeness.summaryOf h]
  rw [Machine.reported, Machine.reported, told]
  exact changed h fun c' => { c' with
    pending := none
    lastUnhandled := some c.payload
    events := c'.events.push (.unhandled (m.unhandled c)) }

/-- **Settling does the same** if what is settled does. -/
theorem settle {x y : Action Value} (first : L.Same x y) :
    L.Same (StubMachine.settle x) (StubMachine.settle y) := by
  intro m n h
  rw [StubMachine.settle, StubMachine.settle]
  rcases (first m n h).outcomes with ⟨v, m', n', left, right, h'⟩ | ⟨failure, m', n', left, right, h'⟩
  · rw [left, right]
    exact .ok v h'
  rw [left, right]
  dsimp only
  by_cases busy : 0 < m'.reentry
  · have busy' : 0 < n'.reentry := by rwa [reentry h']
    rw [if_pos busy, if_pos busy']
    exact .error failure h'
  · have idle : ¬ 0 < n'.reentry := by rwa [reentry h']
    rw [if_neg busy, if_neg idle]
    cases failure with
    | unwinding =>
      dsimp only
      rw [pending h']
      cases m'.pending with
      | none => exact .error _ h'
      | some c =>
        dsimp only
        cases c.kind with
        | send => exact .ok _ (quieted h')
        | error =>
          -- what is told names types and places in the code, which the two have in common
          have told : n'.unhandled c = m'.unhandled c := by
            simp only [Machine.unhandled, Likeness.summaryOf h']
          show Alike L.Rel (.error (.unhandled (m'.unhandled c)) (m'.reported c))
            (.error (.unhandled (n'.unhandled c)) (n'.reported c))
          rw [told]
          exact .error _ (reported h' c)
    | exhausted => exact .error _ h'
    | _ => exact .error _ (quieted h')

end Same
end Likeness

end StubMachine
