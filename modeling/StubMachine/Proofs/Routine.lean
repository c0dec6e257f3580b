import StubMachine.Machine.Perform

/-!
# Routines

Nearly everything the machine does is put together from a few elementary actions:
looking at the state, changing the store, raising, giving up, calling, calling a function
under a response, and calling a native function whose faults are raised.  A `Routine` is
an action put together from these and from nothing else.

A routine is not one action but one for every engine (`Procedure`), since what it does
between its requests cannot depend on who carries them out.  So a fact about routines
may compare two engines, as well as tell what happens with one.

**What holds of every elementary action and survives sequencing holds of every
operation.**  That each operation is a routine is shown once, in the modules below this
one; whatever is to be proved of all operations then needs one case for each elementary
action and none for the operations.

The `Rank` of a routine says what it may do beyond that.  Native functions may also end
with a fault that their caller deals with, settle calls of their own, and leave the rest
to the embedder; instructions may also change the program counter and the value stack of
their own frame, and make closures over it; and an activation, between its instructions,
may also change the condition under which its frame starts over.

What is left may be allowed or not, which a `License` says: to assign to variables, to
enter a function without calling it, and to change the store in ways in which the machine
itself never does.
-/

namespace StubMachine

open StubMachine.Action

/-- An action that makes its requests of an engine. -/
abbrev Procedure (α : Type) := Engine → Action α

/-- The state in which an action ends, with or without a result. -/
def Action.after {α : Type} (x : Action α) (m : Machine) : Machine :=
  match x m with
  | .ok _ m' => m'
  | .error _ m' => m'

/-- What follows an action starts with its result in the state in which it ended. -/
theorem Action.bind_eq {α β : Type} (x : Action α) (k : α → Action β) (m : Machine) :
    (x >>= k) m =
      match x m with
      | .ok a m' => k a m'
      | .error failure m' => .error failure m' := by
  show EStateM.bind x k m = _
  delta EStateM.bind
  cases x m with
  | ok a m' => rfl
  | error failure m' => rfl

theorem Action.bind_ok {α β : Type} {x : Action α} {k : α → Action β} {m m' : Machine} {a : α}
    (run : x m = .ok a m') : (x >>= k) m = k a m' := by
  rw [Action.bind_eq, run]

theorem Action.bind_error {α β : Type} {x : Action α} {k : α → Action β} {m m' : Machine}
    {failure : Failure} (run : x m = .error failure m') :
    (x >>= k) m = .error failure m' := by
  rw [Action.bind_eq, run]

theorem Action.bind_eq_ok {α β : Type} {x : Action α} {k : α → Action β} {m m' : Machine} {b : β} :
    (x >>= k) m = .ok b m' ↔ ∃ a m₁, x m = .ok a m₁ ∧ k a m₁ = .ok b m' := by
  constructor
  · intro ok
    cases run : x m with
    | ok a m₁ => exact ⟨a, m₁, rfl, (Action.bind_ok run).symm.trans ok⟩
    | error failure m₁ => cases (Action.bind_error run).symm.trans ok
  · rintro ⟨a, m₁, run, ok⟩
    exact (Action.bind_ok run).trans ok

/-- A failure is dealt with in the state in which it occurred. -/
theorem Action.tryCatch_eq {α : Type} (x : Action α) (k : Failure → Action α) (m : Machine) :
    tryCatch x k m =
      match x m with
      | .ok a m' => .ok a m'
      | .error failure m' => k failure m' := by
  show EStateM.tryCatch x k m = _
  delta EStateM.tryCatch
  cases x m with
  | ok a m' => rfl
  | error failure m' => rfl

namespace Machine

/-- The unhandled errors that the embedder was told of so far. -/
def notifications (m : Machine) : List UnhandledError :=
  m.events.toList.filterMap fun
    | .unhandled error => some error
    | _ => none

/-- **Agreement on what governs the course of a run**: all but the store, the loaded code,
and what the embedder was asked for or given to print. -/
structure SameCourse (m m' : Machine) : Prop where
  config : m'.config = m.config
  frames : m'.frames = m.frames
  depth : m'.depth = m.depth
  reentry : m'.reentry = m.reentry
  pending : m'.pending = m.pending
  raised : m'.raised = m.raised
  lastUnhandled : m'.lastUnhandled = m.lastUnhandled
  notifications : m'.notifications = m.notifications

/-- A change to nothing but the store, the loaded code and the count of random numbers. -/
theorem SameCourse.stored {m m' : Machine}
    (h : m' = { m with
      types := m'.types, objects := m'.objects, slots := m'.slots, stubs := m'.stubs
      files := m'.files, modules := m'.modules, natives := m'.natives
      externals := m'.externals, draws := m'.draws, history := m'.history }) : m.SameCourse m' := by
  rw [h]
  exact ⟨rfl, rfl, rfl, rfl, rfl, rfl, rfl, rfl⟩

end Machine

/-! ## Changes to the store -/

/-- A function that captures nothing and was made in no scope. -/
structure FunctionFacet.Bare (f : FunctionFacet) : Prop where
  captures : f.captures = #[]
  origin : f.origin = []

/-- A change to an object that does not make it a function. -/
def Object.MakesNoFunction (change : Object → Object) : Prop :=
  ∀ object f, (change object).function? = some f → object.function? = some f

/-- A change to an object that leaves it the function that it is, if it is one. -/
def Object.KeepsFunction (change : Object → Object) : Prop :=
  ∀ object, (change object).function? = object.function?

namespace Machine

/-- Some object is the function. -/
def HasFunction (m : Machine) (f : FunctionFacet) : Prop := ∃ o, (m.object o).function? = some f

/-- The stub is registered under the file and the id. -/
def HasStub (m : Machine) (file id : UInt32) (s : Stub) : Prop := m.stubs[(file, id)]? = some s

/-- **A change to the store that touches no variable**: functions that are new capture nothing,
and stubs that are new are registered where they belong. -/
structure Stored (m m' : Machine) : Prop extends SameCourse m m' where
  slots : m'.slots = m.slots
  functions : ∀ f, m'.HasFunction f → m.HasFunction f ∨ f.Bare
  stubs : ∀ file id s, m'.HasStub file id s → m.HasStub file id s ∨ (s.file = file ∧ s.id = id)

namespace Stored
variable {m m' : Machine}

/-- A change to neither objects nor variables nor stubs. -/
theorem aside (course : m.SameCourse m') (slots : m'.slots = m.slots)
    (objects : m'.objects = m.objects) (stubs : m'.stubs = m.stubs) : m.Stored m' where
  toSameCourse := course
  slots := slots
  functions f h := by
    obtain ⟨o, ho⟩ := h
    rw [object, objects] at ho
    exact .inl ⟨o, ho⟩
  stubs file id s h := by
    rw [HasStub, stubs] at h
    exact .inl h

/-- A change to objects, each of which is as before or makes no new function but a bare one. -/
theorem of_objects {objects : Array Object}
    (h : ∀ o f, (objects.getD o Object.blank).function? = some f →
      (m.objects.getD o Object.blank).function? = some f ∨ f.Bare) :
    m.Stored { m with objects } where
  toSameCourse := .stored rfl
  slots := rfl
  functions f has := by
    obtain ⟨o, ho⟩ := has
    rcases h (o.serial - 1) f ho with before | bare
    · exact .inl ⟨o, before⟩
    · exact .inr bare
  stubs _ _ _ := .inl

theorem pushed {object : Object} (h : ∀ f, object.function? = some f → f.Bare) :
    m.Stored { m with objects := m.objects.push object } := by
  refine of_objects fun j f function => ?_
  rw [Array.getD_eq_getD_getElem?, Array.getElem?_push] at function
  rw [Array.getD_eq_getD_getElem?]
  split at function
  · exact .inr (h f function)
  · exact .inl function

theorem updated (o : ObjectId) {change : Object → Object} (h : Object.MakesNoFunction change) :
    m.Stored { m with objects := m.objects.modify (o.serial - 1) change } := by
  refine of_objects fun j f function => .inl ?_
  rw [Array.getD_eq_getD_getElem?, Array.getElem?_modify] at function
  rw [Array.getD_eq_getD_getElem?]
  split at function
  · cases at_ : m.objects[j]? with
    | none => rwa [at_] at function
    | some object =>
      rw [at_] at function
      exact h object f function
  · exact function

end Stored

/-- **A change to the store that leaves all functions as they are**, and touches neither variables
nor code. -/
structure Furnished (m m' : Machine) : Prop extends SameCourse m m' where
  slots : m'.slots = m.slots
  functions : ∀ o, (m'.object o).function? = (m.object o).function?
  stubs : m'.stubs = m.stubs
  files : m'.files = m.files
  natives : m'.natives = m.natives

namespace Furnished
variable {m m' : Machine}

theorem hasFunction (h : m.Furnished m') {f : FunctionFacet} (has : m'.HasFunction f) :
    m.HasFunction f := by
  obtain ⟨o, function⟩ := has
  exact ⟨o, (h.functions o).symm.trans function⟩

theorem stored (h : m.Furnished m') : m.Stored m' where
  toSameCourse := h.toSameCourse
  slots := h.slots
  functions _ has := .inl (h.hasFunction has)
  stubs file id s has := by
    rw [HasStub, h.stubs] at has
    exact .inl has

theorem updated (o : ObjectId) {change : Object → Object} (h : Object.KeepsFunction change) :
    m.Furnished { m with objects := m.objects.modify (o.serial - 1) change } where
  toSameCourse := .stored rfl
  slots := rfl
  stubs := rfl
  files := rfl
  natives := rfl
  functions p := by
    rw [object, object, Array.getD_eq_getD_getElem?, Array.getElem?_modify,
      Array.getD_eq_getD_getElem?]
    split
    · cases m.objects[p.serial - 1]? with
      | none => rfl
      | some object => exact h object
    · rfl

theorem added {object : Object} (h : object.function? = none) :
    m.Furnished { m with objects := m.objects.push object } where
  toSameCourse := .stored rfl
  slots := rfl
  stubs := rfl
  files := rfl
  natives := rfl
  functions p := by
    rw [Machine.object, Machine.object, Array.getD_eq_getD_getElem?, Array.getElem?_push,
      Array.getD_eq_getD_getElem?]
    split
    · rename_i new
      rw [new, Array.getElem?_eq_none (Nat.le_refl _)]
      exact h
    · rfl

end Furnished
end Machine

/-- The frame after an instruction of its own code: only the program counter and the value
stack may differ. -/
def Frame.Advanced (f f' : Frame) : Prop := f' = { f with pc := f'.pc, stack := f'.stack }

/-- The frame after some of its own code: the restart condition may differ, too. -/
def Frame.Progressed (f f' : Frame) : Prop :=
  f' = { f with pc := f'.pc, stack := f'.stack, restart := f'.restart }

/-- What a routine may do beyond the elementary actions. -/
inductive Rank
  | operation
  | native
  /-- An instruction of the frame at a place. -/
  | instruction (place : Nat)
  /-- The whole run of the frame at a place. -/
  | activation (place : Nat)

/-- What a routine is allowed to do besides. -/
structure License where
  /-- The actions that native functions may leave to the embedder. -/
  foreign : Procedure Value → Prop
  /-- To change the store in any way that leaves the course of the run alone. -/
  meddling : Prop
  /-- The functions that may be entered without being called. -/
  entering : FunctionFacet → Prop
  /-- The variables that instructions may assign to, by the place of the frame and their number. -/
  assigning : Nat → Nat → Prop

namespace License

/-- Everything, with certain actions left to the embedder. -/
def full (foreign : Procedure Value → Prop) : License :=
  ⟨foreign, True, fun _ => True, fun _ _ => True⟩

/-- Everything, with nothing left to the embedder. -/
def alone : License := full fun _ => False

/-- Nothing. -/
def none : License := ⟨fun _ => False, False, fun _ => False, fun _ _ => False⟩

/-- Whatever the one license allows, the other does, too. -/
structure Within (P Q : License) : Prop where
  foreign (x : Procedure Value) : P.foreign x → Q.foreign x
  meddling : P.meddling → Q.meddling
  entering (f : FunctionFacet) : P.entering f → Q.entering f
  assigning (place slot : Nat) : P.assigning place slot → Q.assigning place slot

theorem none_within (P : License) : none.Within P :=
  ⟨fun _ => False.elim, False.elim, fun _ => False.elim, fun _ _ => False.elim⟩

/-- A license that leaves nothing to be wished for. -/
class Liberal (P : License) : Prop where
  meddling : P.meddling
  entering (f : FunctionFacet) : P.entering f
  assigning (place slot : Nat) : P.assigning place slot

instance (foreign : Procedure Value → Prop) : (full foreign).Liberal :=
  ⟨trivial, fun _ => trivial, fun _ _ => trivial⟩

instance : alone.Liberal := inferInstanceAs (full _).Liberal

end License

/-- **A routine** with a license. -/
inductive Routine (P : License) : Rank → {α : Type} → Procedure α → Prop
  | pure {r : Rank} {α : Type} (a : α) : Routine P r fun _ => (Pure.pure a : Action α)
  | bind {r : Rank} {α β : Type} {x : Procedure α} {k : Engine → α → Action β} :
      Routine P r x → (∀ a, Routine P r fun e => k e a) →
      Routine P r fun e => x e >>= k e
  /-- Look at the state. -/
  | read {r : Rank} {α : Type} (f : Machine → α) : Routine P r fun _ => Action.read f
  /-- Look at how deep requests may still nest. -/
  | fuel {r : Rank} {α : Type} {x : Engine → Nat → Action α} :
      (∀ n, Routine P r fun e => x e n) → Routine P r fun e => x e e.fuel
  /-- Change the store. -/
  | store {r : Rank} (f : Machine → Machine) (h : ∀ m : Machine, m.Stored (f m)) :
      Routine P r fun _ => update f
  | meddle {r : Rank} (f : Machine → Machine) (h : ∀ m : Machine, m.SameCourse (f m)) :
      P.meddling → Routine P r fun _ => update f
  | raiseError {r : Rank} {α : Type} (detail : Value) :
      Routine P r fun _ => (Action.raiseError detail : Action α)
  | raiseSend {r : Rank} {α : Type} (payload : Value) :
      Routine P r fun _ => (Action.raiseSend payload : Action α)
  | fatal {r : Rank} {α : Type} (cause : FatalCause) :
      Routine P r fun _ => (throw (.fatal cause) : Action α)
  | exhausted {r : Rank} {α : Type} : Routine P r fun _ => (throw .exhausted : Action α)
  | callBound {r : Rank} (function : Value) (arguments : Arguments) (binding : Option Value) :
      Routine P r fun e => e.callBound function arguments binding
  | enter {r : Rank} (f : FunctionFacet) (parameters : Array Value) (restart : Option Restart) :
      P.entering f → Routine P r fun e => e.enter f parameters restart
  | listen {r : Rank} (function response : Value) :
      Routine P r fun e => StubMachine.listen e function response
  /-- Call a native function and raise its faults. -/
  | attempt {r : Rank} {x : Procedure Value} :
      Routine P .native x → Routine P r fun e => tryCatch (x e) raiseFailure
  | fault {α : Type} (f : Fault) : Routine P .native fun _ => (fail f : Action α)
  | settle {x : Procedure Value} :
      Routine P .native x → Routine P .native fun e => StubMachine.settle (x e)
  | foreign {x : Procedure Value} : P.foreign x → Routine P .native x
  /-- Change the frame of the instruction. -/
  | frame (i : Nat) (f : Frame → Frame) (h : ∀ fr : Frame, fr.Advanced (f fr)) :
      Routine P (.instruction i) fun _ => updateFrame i f
  /-- Assign to a variable of the frame. -/
  | assign (i slot : Nat) (v : Value) :
      P.assigning i slot → Routine P (.instruction i) fun _ => writeReferrable i slot v
  /-- Make a closure over the scope of the frame. -/
  | closure (i : Nat) (id : UInt32) (types : Option (Array TypeId)) :
      Routine P (.instruction i) fun _ => makeClosure i id types
  | within {i : Nat} {α : Type} {x : Procedure α} :
      Routine P (.instruction i) x → Routine P (.activation i) x
  /-- Change the frame of the activation between instructions. -/
  | reframe (i : Nat) (f : Frame → Frame) (h : ∀ fr : Frame, fr.Progressed (f fr)) :
      Routine P (.activation i) fun _ => updateFrame i f

namespace Routine

variable {P : License} {r : Rank} {α β : Type}

/-- What is allowed less is allowed more. -/
theorem mono {Q : License} (within : P.Within Q) {x : Procedure α} (h : Routine P r x) :
    Routine Q r x := by
  induction h with
  | pure a => exact .pure a
  | bind _ _ ihx ihk => exact .bind ihx ihk
  | read f => exact .read f
  | fuel _ ih => exact .fuel ih
  | store f stored => exact .store f stored
  | meddle f same allowed => exact .meddle f same (within.meddling allowed)
  | raiseError detail => exact .raiseError detail
  | raiseSend payload => exact .raiseSend payload
  | fatal cause => exact .fatal cause
  | exhausted => exact .exhausted
  | callBound function arguments binding => exact .callBound function arguments binding
  | enter f parameters restart allowed =>
    exact .enter f parameters restart (within.entering f allowed)
  | listen function response => exact .listen function response
  | attempt _ ih => exact .attempt ih
  | fault f => exact .fault f
  | settle _ ih => exact .settle ih
  | foreign allowed => exact .foreign (within.foreign _ allowed)
  | frame i f h => exact .frame i f h
  | assign i slot v allowed => exact .assign i slot v (within.assigning i slot allowed)
  | closure i id types => exact .closure i id types
  | within _ ih => exact .within ih
  | reframe i f h => exact .reframe i f h

theorem raise (f : Fault) : Routine P r fun _ => (Action.raise f : Action α) :=
  .raiseError _

theorem call (function : Value) (arguments : Arguments) :
    Routine P r fun e => e.call function arguments :=
  .callBound _ _ _

theorem objectAt (o : ObjectId) : Routine P r fun _ => Action.objectAt o := .read _

theorem updateObject (o : ObjectId) {change : Object → Object}
    (h : Object.MakesNoFunction change) : Routine P r fun _ => Action.updateObject o change :=
  .store _ fun _ => .updated o h

/-- Taking an object into the store that is no function, or one that captures nothing. -/
theorem newObject {o : Object} (h : ∀ f, o.function? = some f → f.Bare) :
    Routine P r fun _ => Action.newObject o := by
  show Routine P r fun _ => do
    let id ← Action.read fun m => (⟨m.objects.size + 1⟩ : ObjectId)
    update fun m => { m with objects := m.objects.push o }
    return id
  exact .bind (.read _) fun id => .bind (.store _ fun _ => .pushed h) fun _ => .pure id

theorem newBlank : Routine P r fun _ => Action.newBlank :=
  newObject fun _ function => by cases function

theorem newList (values : Array Value) : Routine P r fun _ => Action.newList values :=
  .bind (newObject fun _ function => by cases function) fun _ => .pure _

theorem newFunction {f : FunctionFacet} (bare : f.Bare) :
    Routine P r fun _ => Action.newFunction f :=
  .bind (newObject fun _ function => Option.some.inj function ▸ bare) fun _ => .pure _

theorem ite {c : Prop} [Decidable c] {x y : Procedure α} (hx : Routine P r x)
    (hy : Routine P r y) : Routine P r fun e => if c then x e else y e := by
  split
  · exact hx
  · exact hy

/-! ## Going through lists -/

section Lists
variable {γ : Type}

theorem mapM {f : Engine → γ → Action β} (hf : ∀ a, Routine P r fun e => f e a)
    (l : List γ) : Routine P r fun e => l.mapM (f e) := by
  induction l with
  | nil => exact .pure _
  | cons a l ih =>
    simp only [List.mapM_cons]
    exact .bind (hf a) fun b => .bind ih fun bs => .pure _

theorem foldlM {f : Engine → β → γ → Action β}
    (hf : ∀ b a, Routine P r fun e => f e b a) (l : List γ) :
    ∀ b, Routine P r fun e => l.foldlM (f e) b := by
  induction l with
  | nil => exact fun b => .pure b
  | cons a l ih => exact fun b => .bind (hf b a) fun c => ih c

theorem filterM {f : Engine → γ → Action Bool} (hf : ∀ a, Routine P r fun e => f e a)
    (l : List γ) : Routine P r fun e => l.filterM (f e) := by
  suffices h : ∀ kept, Routine P r fun e => List.filterAuxM (f e) l kept from
    .bind (h []) fun kept => .pure _
  induction l with
  | nil => exact fun kept => .pure _
  | cons a l ih => exact fun kept => .bind (hf a) fun b => ih _

theorem forIn {f : Engine → γ → β → Action (ForInStep β)}
    (hf : ∀ a b, Routine P r fun e => f e a b) (l : List γ) :
    ∀ b, Routine P r fun e => ForIn.forIn l b (f e) := by
  induction l with
  | nil => exact fun b => .pure b
  | cons a l ih =>
    intro b
    simp only [List.forIn_cons]
    refine .bind (hf a b) fun next => ?_
    cases next with
    | done b => exact .pure b
    | yield b => exact ih b

end Lists

end Routine

end StubMachine
