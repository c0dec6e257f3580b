import StubMachine.Proofs.Session

/-!
# Private bindings are discreet

The private binding of an interface is there for its accessors, and only for those that have
a parameter `$`.  This module shows that nothing else ever sees it.  Two states that differ
in private bindings alone, of interfaces none of whose accessors takes one
(`Machine.DifferPrivately`), are compared.  **Whatever an embedder does with them, it gets
the same answers, and the states differ again in those private bindings alone**
(`private_bindings_discreet`): no conversion, enumeration, comparison or document shows
them, nor does turning an interface on or off.

Accessors cannot be added to an interface.  Turning it off drops its private binding, so
the members that it has when it is turned on again do not matter.
-/

namespace StubMachine

open StubMachine.Action

/-! ## States that differ privately -/

/-- **The value takes no private binding**: it is in the store, and if it is a function, it has no
parameter `$`. -/
def Machine.TakesNone (m : Machine) (v : Value) : Prop :=
  ∀ o, v = .object o → o.serial - 1 < m.objects.size ∧
    ∀ f, (m.object o).function? = some f → f.stub.parameterIndex? Stub.privateName = none

/-- **States that differ in private bindings alone**, of interfaces at certain places of the store
whose accessors take none. -/
structure Machine.DifferPrivately (places : Nat → Prop) (m n : Machine) : Prop where
  rest : n = { m with objects := n.objects }
  size : n.objects.size = m.objects.size
  objects (o : ObjectId) : Object.Like (fun members _ _ => places (o.serial - 1) ∧
    ∀ function arguments, AccessorCall members function arguments → m.TakesNone function)
    (m.object o) (n.object o)

/-- The private bindings of an interface at one of the places, all of whose accessors are among
those given, may stand for each other. -/
def Replaceable (places : Nat → Prop) (accessors : Value → Prop) (place : Nat)
    (members : OrderedMap String Member) (_ _ : Option Value) : Prop :=
  places place ∧ ∀ function arguments, AccessorCall members function arguments → accessors function

/-- Requests that are the same but for the private binding of one of the accessors. -/
inductive Request.ForAccessor (accessors : Value → Prop) : Request → Request → Prop
  | same (q : Request) : ForAccessor accessors q q
  | rebound {function : Value} (arguments : Arguments) (x y : Option Value) : accessors function →
      ForAccessor accessors (.call function arguments x) (.call function arguments y)

namespace Machine
variable {places : Nat → Prop} {accessors : Value → Prop} {m n : Machine}

/-- States that differ in private bindings alone, of interfaces whose accessors are among those
given.  As long as there is a run, these remain the same. -/
structure DifferFor (places : Nat → Prop) (accessors : Value → Prop) (m n : Machine) : Prop where
  rest : n = { m with objects := n.objects }
  size : n.objects.size = m.objects.size
  objects (o : ObjectId) : Object.Like (Replaceable places accessors (o.serial - 1))
    (m.object o) (n.object o)
  none (v : Value) : accessors v → m.TakesNone v

namespace TakesNone
variable {v : Value}

theorem of_objects (h : m.TakesNone v) (same : n.objects = m.objects) : n.TakesNone v := by
  intro o eq
  rw [same, object, same]
  exact h o eq

theorem modify (h : m.TakesNone v) (k : Nat) {f : Object → Object}
    (makes : Object.MakesNoFunction f) :
    { m with objects := m.objects.modify k f }.TakesNone v := by
  intro o eq
  obtain ⟨stored, none⟩ := h o eq
  refine ⟨by rwa [Array.size_modify], fun g function => none g ?_⟩
  rw [object_modify] at function
  split at function
  · exact makes _ g function
  · exact function

theorem push (h : m.TakesNone v) (object : Object) :
    { m with objects := m.objects.push object }.TakesNone v := by
  intro o eq
  obtain ⟨stored, none⟩ := h o eq
  refine ⟨by rw [Array.size_push]; omega, fun g function => none g ?_⟩
  rwa [object_push, if_neg (Nat.ne_of_lt stored)] at function

end TakesNone

namespace DifferFor

/-- What does not depend on objects is the same. -/
theorem same {α : Type} (h : DifferFor places accessors m n) (g : Machine → α)
    (blind : ∀ (m : Machine) objects, g { m with objects } = g m := by intros; rfl) : g n = g m :=
  (congrArg g h.rest).trans (blind m _)

/-- A change that leaves objects alone, and does not depend on them. -/
theorem change (h : DifferFor places accessors m n) (f : Machine → Machine)
    (keeps : ∀ m, (f m).objects = m.objects := by intros; rfl)
    (blind : ∀ (m : Machine) objects, f { m with objects } = { f m with objects } := by
      intros; rfl) :
    DifferFor places accessors (f m) (f n) where
  rest := by
    rw [keeps]
    exact (congrArg f h.rest).trans (blind m _)
  size := by
    rw [keeps, keeps]
    exact h.size
  objects o := by
    rw [object, object, keeps, keeps]
    exact h.objects o
  none v accessor := (h.none v accessor).of_objects (keeps m)

theorem modify (h : DifferFor places accessors m n) (o : ObjectId) {f f' : Object → Object}
    (makes : Object.MakesNoFunction f)
    (like : ∀ a b, Object.Like (Replaceable places accessors (o.serial - 1)) a b →
      Object.Like (Replaceable places accessors (o.serial - 1)) (f a) (f' b)) :
    DifferFor places accessors { m with objects := m.objects.modify (o.serial - 1) f }
      { n with objects := n.objects.modify (o.serial - 1) f' } where
  rest := congrArg (fun k => { k with objects := n.objects.modify (o.serial - 1) f' }) h.rest
  size := by rw [Array.size_modify, Array.size_modify, h.size]
  objects p := by
    rw [object_modify, object_modify, h.size]
    by_cases here : o.serial - 1 = p.serial - 1 ∧ o.serial - 1 < m.objects.size
    · rw [if_pos here, if_pos here, ← here.1]
      exact like _ _ (here.1 ▸ h.objects p)
    · rw [if_neg here, if_neg here]
      exact h.objects p
  none v accessor := (h.none v accessor).modify _ makes

theorem push (h : DifferFor places accessors m n) (object : Object) :
    DifferFor places accessors { m with objects := m.objects.push object }
      { n with objects := n.objects.push object } where
  rest := congrArg (fun k => { k with objects := n.objects.push object }) h.rest
  size := by rw [Array.size_push, Array.size_push, h.size]
  objects p := by
    rw [object_push, object_push, h.size]
    by_cases new : p.serial - 1 = m.objects.size
    · rw [if_pos new, if_pos new]
      exact .refl _
    · rw [if_neg new, if_neg new]
      exact h.objects p
  none v accessor := (h.none v accessor).push object

/-- The private bindings of an interface may stand for each other, or are the same. -/
theorem accessor (h : DifferFor places accessors m n) {o : ObjectId}
    {members : OrderedMap String Member} {x y : Option Value} {function : Value}
    {arguments : Arguments} (left : (m.object o).facet = .interface members x)
    (right : (n.object o).facet = .interface members y)
    (call : AccessorCall members function arguments) :
    Request.ForAccessor accessors (.call function arguments x) (.call function arguments y) := by
  rcases (h.objects o).facet_cases with ⟨members', x', y', binds, left', right'⟩ | ⟨-, plain⟩
  · cases left'.symm.trans left
    cases right'.symm.trans right
    rcases binds with ⟨-, among⟩ | rfl
    · exact .rebound arguments x y (among function arguments call)
    · exact .same _
  · rw [Object.interface?, left] at plain
    cases plain

end DifferFor

/-- States that differ in private bindings alone differ for the accessors of the interfaces in
which they differ. -/
theorem DifferPrivately.differFor (h : DifferPrivately places m n) :
    DifferFor places (m.TakesNone ·) m n where
  rest := h.rest
  size := h.size
  objects := h.objects
  none _ none := none

theorem DifferFor.differPrivately (h : DifferFor places accessors m n) :
    DifferPrivately places m n where
  rest := h.rest
  size := h.size
  objects o := by
    refine (h.objects o).mono fun members _ _ ⟨place, among⟩ => ⟨place, fun function arguments call => ?_⟩
    exact h.none function (among function arguments call)

end Machine

/-! ## The likeness -/

/-- **States are alike that differ in private bindings alone.** -/
def Likeness.privately (places : Nat → Prop) (accessors : Value → Prop) : Likeness where
  Rel := Machine.DifferFor places accessors
  Binds := Replaceable places accessors
  Asks _ _ := Request.ForAccessor accessors
  contents h := h.same Machine.contents
  location h := h.same Machine.location
  callStack h := h.same Machine.callStack
  size h := h.size
  objects h := h.objects
  refilled h c := h.change (Machine.refill · c)
  updated h := h.modify
  pushed h := h.push
  reframed h i f := h.change fun m => { m with frames := m.frames.modify i f }
  call _ _ _ := .same _
  accessor h := h.accessor
  loop _ _ := .same _

theorem Likeness.privately_calling (places : Nat → Prop) (accessors : Value → Prop) :
    (privately places accessors).Calling where
  limit h := h.same fun m => m.config.maxCallDepth
  frames h := h.same Machine.frames
  depth h := h.same Machine.depth
  restacked h frames depth := h.change fun m => m.restacked frames depth
  akin {m n q q'} h asked := by
    cases asked with
    | same q =>
      cases q with
      | call function arguments binding => exact .call arguments fun _ _ _ _ _ => rfl
      | enter f parameters restart => exact .enter f parameters restart
    | @rebound function arguments x y accessor =>
      refine .call arguments fun o f eq function parameters => ?_
      have unbound := (h.none _ accessor o eq).2 f function
      simp only [bindPrivate, unbound]
  counted asked := asked
  entering _ _ _ _ _ := .same _

/-- **Functions of the embedder that do not look at private bindings**: they do the same in states
that differ in private bindings alone. -/
def Host.Discreet (host : Host) : Prop :=
  ∀ places accessors, host.Respects (Likeness.privately places accessors)

/-- **Private bindings are discreet.**  From states that differ only in private bindings, of
interfaces none of whose accessors has a parameter `$`, a session gives the same answers and ends in
states that again differ only in private bindings of those interfaces.  So what is pending, and what
the embedder has been asked and told, is the same, too. -/
theorem private_bindings_discreet {host : Host} (discreet : host.Discreet) {places : Nat → Prop}
    {m n : Machine} (differ : m.DifferPrivately places n) (fuel : Nat) (session : Session) :
    let ended := session.run host (.ofHost host fuel) m
    let ended' := session.run host (.ofHost host fuel) n
    ended'.1 = ended.1 ∧ ended.2.DifferPrivately places ended'.2 ∧
      ended'.2.pending = ended.2.pending ∧ ended'.2.events = ended.2.events := by
  intro ended ended'
  let L := Likeness.privately places (m.TakesNone ·)
  have engines : L.Engines (.ofHost host fuel) (.ofHost host fuel) :=
    (Likeness.privately_calling _ _).engines_alone (discreet _ _) fuel
  obtain ⟨answers, rel⟩ := L.session engines host session differ.differFor
  exact ⟨answers, rel.differPrivately, rel.same Machine.pending, rel.same Machine.events⟩

/-- The members of an interface that has one, which a function answers for. -/
def answering : OrderedMap String Member :=
  OrderedMap.empty.insert "answer" (.accessor (some (.object ⟨1⟩)) none)

/-- A machine with a function that has neither parameters nor code, and an interface over it that
keeps a value. -/
def keeping (binding : Value) : Machine :=
  { Machine.initial .standard with
    objects := #[Object.ofType BuiltinType.function.id (.function (.ofStub (Stub.blank 1 1))),
      Object.blank.asInterface answering (some binding)] }

theorem keeping_takesNone (binding : Value) {function : Value} {arguments : Arguments}
    (call : AccessorCall answering function arguments) : (keeping binding).TakesNone function := by
  have member {name : String} {getter setter : Option Value}
      (found : answering.get? name = some (.accessor getter setter)) :
      getter = some (.object ⟨1⟩) ∧ setter = none := by
    rw [answering, OrderedMap.get?_insert] at found
    split at found
    · cases found
      exact ⟨rfl, rfl⟩
    · rw [OrderedMap.get?_empty] at found
      cases found
  have eq : function = .object ⟨1⟩ := by
    cases call with
    | get found => exact Option.some.inj (member found).1
    | set v found => cases (member found).2
  intro o own
  cases own.symm.trans eq
  refine ⟨Nat.zero_lt_two, fun f function => ?_⟩
  cases function
  exact Array.idxOf?_empty

theorem keeping_differ (x y : Value) : (keeping x).DifferPrivately (· = 1) (keeping y) := by
  refine ⟨rfl, rfl, fun o => ?_⟩
  rw [Machine.object, Machine.object]
  generalize o.serial - 1 = place
  rcases place with _ | _ | place
  · exact .refl _
  · exact .rebound Object.blank answering ⟨rfl, fun _ _ => keeping_takesNone x⟩
  · exact .refl _

/-- Whoever lists, reads and writes out an interface does not learn which number it keeps. -/
theorem keeping_discreet :
    let session := Session.deals (.values ⟨2⟩) fun _ =>
      .deals (.getMember (.object ⟨2⟩) (.string "answer") .dot) fun _ =>
      .deals (.encode (.object ⟨2⟩)) fun _ => .ends
    let ended := session.run .complaining (.ofHost .complaining 5) (keeping (.number 1.0))
    let ended' := session.run .complaining (.ofHost .complaining 5) (keeping (.number 2.0))
    ended'.1 = ended.1 ∧ ended.2.DifferPrivately (· = 1) ended'.2 := by
  intro session ended ended'
  obtain ⟨answers, differ, -⟩ := private_bindings_discreet
    (fun _ _ => Host.complaining_respects _) (keeping_differ (.number 1.0) (.number 2.0)) 5 session
  exact ⟨answers, differ⟩

end StubMachine
