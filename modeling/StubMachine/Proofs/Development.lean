import StubMachine.Proofs.Consulting
import StubMachine.Proofs.Sharing.Law

/-!
# How the code of a machine develops

What is told here of a machine is its **code**: the files and stubs that are loaded, the native
functions, the functions in the store, and the functions on the call stack with the scopes in
which they run.  A machine `Develops` step by step: a file is loaded, a function comes to be, a
function is entered or left.  A function comes to be in three ways only (`FunctionFacet.Arises`):
as a closure that the code in the innermost frame makes, as the entry of a file, or as the
function object of a native function.

Whatever runs, the machine **advances** (`Machine.Advances`): its code develops, all calls return,
and no function changes.  This module shows so for all that instructions do, as far as requests
are carried out that way.
-/

namespace StubMachine

open StubMachine.Action

namespace Machine

/-- **The code stays as it is**: what is different is neither loaded nor entered nor left, and makes
no function. -/
structure SameCode (m m' : Machine) : Prop where
  files : m'.files = m.files
  stubs : m'.stubs = m.stubs
  /-- A native function that is new is native by its stub. -/
  natives : ∀ n' ∈ m'.natives, n'.stub.isNative = true ∨ ∃ n ∈ m.natives, n'.stub = n.stub
  functions (o : ObjectId) (f : FunctionFacet) : (m'.object o).function? = some f →
    (m.object o).function? = some f
  /-- No array of variables is new, and none changes its length. -/
  slots : m'.slots.map Array.size = m.slots.map Array.size
  depth : m'.depth = m.depth
  pool : m'.frames.size = m.frames.size
  frames (j : Nat) : (m.frame j).Progressed (m'.frame j)

end Machine

/-- **How a function comes to be** in a state. -/
inductive FunctionFacet.Arises (m : Machine) (f : FunctionFacet) : Prop
  /-- The code in the innermost frame makes a closure of a stub of its own file. -/
  | closure {i : Nat} {id : UInt32} {types : Option (Array TypeId)} {stub : Stub}
      {captures : Array Capture} : i + 1 = m.depth → m.HasStub (m.frame i).stub.file id stub →
    stub.captures.mapM (m.resolve (m.frame i).scope (m.frame i).stub.file id) = .ok captures →
    f = m.closure i stub captures types → Arises m f
  /-- It is the entry of a file. -/
  | entry {file : UInt32} {stub : Stub} : m.HasStub file 0 stub → f = .ofStub stub → Arises m f
  | native {n : Native} : n ∈ m.natives → f.stub = n.stub → f.Bare → Arises m f

namespace Machine

/-- **How the code of a machine develops.** -/
inductive Develops : Machine → Machine → Prop
  | aside {m m' : Machine} : m.SameCode m' → Develops m m'
  | loads {m m' : Machine} {name : String} {bytes : List UInt8} {file : UInt32} :
    load name bytes m = .ok file m' → Develops m m'
  | makes {m : Machine} {f : FunctionFacet} : f.Arises m → Develops m (m.withFunction f)
  /-- Only functions in the store are entered, and no native ones. -/
  | enters {m : Machine} {f : FunctionFacet} (parameters : Array Value)
      (restart : Option Restart) : m.HasFunction f → f.stub.isNative = false →
    Develops m (m.pushFrame f parameters restart)
  | leaves (m : Machine) : Develops m m.popFrame
  | trans {m m₁ m₂ : Machine} : Develops m m₁ → Develops m₁ m₂ → Develops m m₂

/-- **What everything that runs does to the code.** -/
structure Advances (m m' : Machine) : Prop where
  develops : m.Develops m'
  depth : m'.depth = m.depth
  kept (o : ObjectId) (f : FunctionFacet) : (m.object o).function? = some f →
    (m'.object o).function? = some f

namespace SameCode
variable {m m' : Machine}

/-- No object changes, and none is made. -/
theorem of_objects (objects : m'.objects = m.objects) (files : m'.files = m.files)
    (stubs : m'.stubs = m.stubs)
    (natives : ∀ n' ∈ m'.natives, n'.stub.isNative = true ∨ ∃ n ∈ m.natives, n'.stub = n.stub)
    (slots : m'.slots.map Array.size = m.slots.map Array.size) (depth : m'.depth = m.depth)
    (pool : m'.frames.size = m.frames.size)
    (frames : ∀ j, (m.frame j).Progressed (m'.frame j)) : m.SameCode m' where
  files := files
  stubs := stubs
  natives := natives
  functions o f function := by rwa [object, objects] at function
  slots := slots
  depth := depth
  pool := pool
  frames := frames

theorem natives_eq (same : m'.natives = m.natives) :
    ∀ n' ∈ m'.natives, n'.stub.isNative = true ∨ ∃ n ∈ m.natives, n'.stub = n.stub :=
  fun n' member => .inr ⟨n', same ▸ member, rfl⟩

end SameCode

namespace Advances
variable {m m₁ m₂ : Machine}

/-- A change that neither loads nor enters nor leaves, nor makes a function. -/
theorem of_sameCode (same : m.SameCode m₁)
    (kept : ∀ o f, (m.object o).function? = some f → (m₁.object o).function? = some f) :
    m.Advances m₁ := ⟨.aside same, same.depth, kept⟩

/-- A change that makes no object and changes none. -/
theorem of_objects (same : m.SameCode m₁) (objects : m₁.objects = m.objects) : m.Advances m₁ :=
  of_sameCode same fun o f function => by rwa [object, objects]

theorem of_beside (beside : m.Beside m₁) : m.Advances m₁ :=
  of_objects (.of_objects beside.objects beside.files beside.stubs
    (SameCode.natives_eq beside.natives) (congrArg (Array.map Array.size) beside.slots) beside.depth
    beside.pool beside.frames) beside.objects

theorem refl (m : Machine) : m.Advances m := of_beside (.of_eq rfl)

theorem trans (h : m.Advances m₁) (h' : m₁.Advances m₂) : m.Advances m₂ where
  develops := h.develops.trans h'.develops
  depth := h'.depth.trans h.depth
  kept o f function := h'.kept o f (h.kept o f function)

theorem hasFunction (h : m.Advances m₁) {f : FunctionFacet} (has : m.HasFunction f) :
    m₁.HasFunction f := by
  obtain ⟨o, function⟩ := has
  exact ⟨o, h.kept o f function⟩

/-- A change to the store that leaves all functions as they are. -/
theorem furnished (change : m.Furnished m₁) : m.Advances m₁ where
  develops := .aside {
    files := change.files
    stubs := change.stubs
    natives := SameCode.natives_eq change.natives
    functions := fun o f function => (change.functions o).symm.trans function
    slots := congrArg (Array.map Array.size) change.slots
    depth := change.depth
    pool := congrArg Array.size change.frames
    frames := fun j => by rw [frame, frame, change.frames]; rfl }
  depth := change.depth
  kept o f function := (change.functions o).trans function

/-- A change of one object, after something that has run, if the object was no function before that
and does not become one. -/
theorem modified (h : m.Advances m₁) {o : ObjectId} (plain : (m.object o).function? = none)
    {change : Object → Object} (makes : Object.MakesNoFunction change) :
    m.Advances { m₁ with objects := m₁.objects.modify (o.serial - 1) change } where
  develops := by
    refine h.develops.trans (.aside ⟨rfl, rfl, SameCode.natives_eq rfl, fun p f function => ?_, rfl,
      rfl, rfl, fun _ => rfl⟩)
    rw [object_modify] at function
    split at function
    · exact makes _ f function
    · exact function
  depth := h.depth
  kept p f function := by
    rw [object_modify, if_neg fun here => ?_]
    · exact h.kept p f function
    · -- a function stands at another place
      have same : m.object o = m.object p := by rw [object, object, here.1]
      rw [same, function] at plain
      cases plain

theorem setSlot (m : Machine) (c : Capture) (v : Value) : m.Advances (m.setSlot c v) := by
  refine of_objects (.of_objects rfl rfl rfl (SameCode.natives_eq rfl) ?_ rfl rfl fun _ => rfl) rfl
  refine Array.ext_getElem? fun n => ?_
  rw [Array.getElem?_map, Machine.setSlot, Array.getElem?_modify, Array.getElem?_map]
  split
  · cases m.slots[n]? with
    | none => rfl
    | some values => exact congrArg some (Array.size_setIfInBounds ..)
  · rfl

theorem function_withFunction (m : Machine) (f : FunctionFacet) (o : ObjectId) :
    ((m.withFunction f).object o).function? =
      if o.serial - 1 = m.objects.size then some f else (m.object o).function? := by
  rw [withFunction, object_push]
  split
  · rfl
  · rfl

/-- **A function comes to be.** -/
theorem makes {f : FunctionFacet} (arises : f.Arises m) : m.Advances (m.withFunction f) where
  develops := .makes arises
  depth := rfl
  kept o g function := by
    rw [function_withFunction, if_neg fun new => ?_]
    · exact function
    · rw [object, new, Array.getD_eq_getD_getElem?, Array.getElem?_eq_none (Nat.le_refl _)]
        at function
      cases function

/-- Entering a function and leaving it again. -/
theorem entered {f : FunctionFacet} {parameters : Array Value} {restart : Option Restart}
    (has : m.HasFunction f) (script : f.stub.isNative = false)
    (body : (m.pushFrame f parameters restart).Advances m₁) : m.Advances m₁.popFrame where
  develops := .trans (.enters parameters restart has script) (.trans body.develops (.leaves m₁))
  depth := by
    show m₁.depth - 1 = m.depth
    rw [body.depth]
    exact Nat.add_sub_cancel m.depth 1
  kept o g function := body.kept o g function

instance : Passage Advances where
  refl := refl
  trans _ _ _ := trans
  aside := of_beside
  raised detail m := by
    obtain ⟨o, m', furnishes, -, run⟩ := raiseError_grows (α := Unit) detail m
    rw [← raiseError_after (α := Unit), Action.after, run]
    exact trans (furnished furnishes) (of_beside (.of_eq rfl))

end Advances
end Machine

open Machine (Advances)

/-! ## Making functions -/

section Making

theorem newFunction_advances {f : FunctionFacet} {m : Machine} (arises : f.Arises m) :
    m.Advances ((newFunction f).after m) := .makes arises

/-- The code in the innermost frame makes a closure. -/
theorem makeClosure_advances {i : Nat} {m : Machine} (innermost : i + 1 = m.depth) (id : UInt32)
    (types : Option (Array TypeId)) : m.Advances ((makeClosure i id types).after m) := by
  rcases makeClosure_cases i id types m with
    ⟨fault, raised⟩ | ⟨cause, fatal⟩ | ⟨stub, captures, here, resolved, made⟩
  · rw [Action.after, raised]
    exact Along.raise (R := Advances) (α := Value) fault m
  · rw [Action.after, fatal]
    exact .refl m
  · rw [Action.after, made]
    exact .makes (.closure innermost here resolved rfl)

/-- Noting the function object of a native function changes no stub. -/
theorem noteNative_advances (id : Nat) (o : ObjectId) : Along Advances (update fun m =>
    { m with natives := m.natives.modify id fun n => { n with value := some o } }) := by
  refine fun m => .of_objects (.of_objects rfl rfl rfl (fun n' member => ?_) rfl rfl rfl
    fun _ => rfl) rfl
  obtain ⟨i, there⟩ := Array.mem_iff_getElem?.mp member
  have there : (m.natives.modify id fun n => { n with value := some o })[i]? = some n' := there
  rw [Array.getElem?_modify] at there
  split at there
  · obtain ⟨n, at_, rfl⟩ := Option.map_eq_some_iff.mp there
    exact .inr ⟨n, Array.mem_of_getElem? at_, rfl⟩
  · exact .inr ⟨n', Array.mem_of_getElem? there, rfl⟩

theorem nativeValue_advances (id : Nat) : Along Advances (nativeValue id) := by
  intro m
  refine Along.bind_from (Along.read _ m) fun native? m₁ read => ?_
  cases read
  dsimp only
  cases known : m.natives[id]? with
  | none => exact Along.raise _ m
  | some native =>
    dsimp only
    cases native.value with
    | some o => exact .refl m
    | none =>
      have member : native ∈ m.natives := Array.mem_of_getElem? known
      have made := newFunction_advances (.native member rfl (.ofStub native.stub))
      refine Along.bind_from made fun v m₁ _ => ?_
      cases v with
      | object o =>
        exact Along.bind_from (noteNative_advances id o m₁) fun _ m₂ _ => .refl m₂
      | _ => exact .refl m₁

theorem boundNative_advances (id : Nat) (base : Value) : Along Advances (boundNative id base) := by
  intro m
  refine Along.bind_from (Along.read _ m) fun native? m₁ read => ?_
  cases read
  dsimp only
  cases known : m.natives[id]? with
  | none => exact .refl m
  | some native => exact newFunction_advances (.native (Array.mem_of_getElem? known) rfl ⟨rfl, rfl⟩)

end Making

/-! ## The store -/

section Store
variable {object : Object}

theorem newObject_advances (plain : object.function? = none) :
    Along Advances (newObject object) := fun _ => .furnished (.added plain)

theorem newList_advances (values : Array Value) : Along Advances (newList values) :=
  .bind (newObject_advances rfl) fun _ => .pure _

theorem updateObject_advances (o : ObjectId) {change : Object → Object}
    (keeps : Object.KeepsFunction change) : Along Advances (updateObject o change) :=
  fun _ => .furnished (.updated o keeps)

theorem writeReferrable_advances (i slot : Nat) (v : Value) :
    Along Advances (writeReferrable i slot v) := by
  delta writeReferrable
  refine .bind (.read _) fun site? => ?_
  cases site? with
  | some c => exact fun m => .setSlot m c v
  | none => exact .raise _

end Store

/-! ## Errands -/

/-- **A machine advances in every errand** if it does in every call; an errand of an instruction is
one of the innermost frame. -/
theorem Errand.advances {e : Engine} [e.CallsAlong Advances] {ρ : Reach} {P : License} {r : Rank}
    {α : Type} {x : Procedure α} (h : Errand ρ P r x) {m : Machine}
    (innermost : ∀ i, r = .instruction i → i + 1 = m.depth) : m.Advances ((x e).after m) := by
  induction h generalizing m with
  | pure a => exact .refl m
  | bind _ _ ihx ihk =>
    refine Along.bind_from (ihx innermost) fun a m₁ run => ihk a fun i own => ?_
    have depth : m₁.depth = m.depth := by
      have first := (ihx innermost).depth
      rwa [Action.after, run] at first
    rw [depth]
    exact innermost i own
  | read f => exact .refl m
  | furnish f furnished => exact .furnished (furnished m)
  | raiseError detail => exact Along.raiseError detail m
  | callBound function arguments binding _ => exact Along.callBound function arguments binding m
  | listen function response _ => exact listen_along function response m
  | frame i f forwarded =>
    exact Along.updateFrame i (fun fr => (forwarded fr).advanced.progressed) m
  | assign i slot v _ => exact writeReferrable_advances i slot v m
  | closure i id types => exact makeClosure_advances (innermost i rfl) id types

/-- An errand that belongs to no frame. -/
theorem Errand.along {e : Engine} [e.CallsAlong Advances] {ρ : Reach} {P : License} {α : Type}
    {x : Procedure α} (h : Errand ρ P .operation x) : Along Advances (x e) :=
  fun _ => h.advances fun _ own => nomatch own

/-! ## Queries -/

section Queries
variable {e : Engine} [e.CallsAlong Advances]

theorem askObject_advances (q : Query) (o : ObjectId) : Along Advances (askObject e q o) := by
  cases q with
  | keyCount => exact .bind (objectKeys_along o) fun keys => .pure _
  | keys => exact .bind (objectKeys_along o) fun keys => newList_advances _
  | values => exact .bind (objectValues_along o) fun values => newList_advances _
  | pop =>
    exact .bind (.objectAt o) fun object =>
      .bind (updateObject_advances o fun _ => rfl) fun _ => .pure _
  | attributes => exact .bind (.objectAt o) fun object => .pure _
  | _ => exact .raise _

theorem askImmediate_advances (q : Query) (base : Value) :
    Along Advances (askImmediate e q base) := by
  delta askImmediate
  split
  · exact .bind (.read _) fun t => .pure _
  · exact .pure _
  · exact .raise _
  · exact .pure _
  · exact .bind (.objectAt _) fun object => .pure _
  · exact .raise _
  · exact .bind (.read _) fun name => .pure _
  · exact .raise _
  · cases q.numeric? with
    | some f =>
      cases base with
      | number n => exact .pure _
      | _ => exact .raise _
    | none =>
      cases q.textual? with
      | some f =>
        cases base with
        | string s => exact .pure _
        | _ => exact .raise _
      | none =>
        cases base with
        | object o => exact askObject_advances q o
        | _ => exact .raise _

theorem ask_advances (base : Value) (id : Nat) : Along Advances (ask e base id) := by
  delta ask
  cases Query.ofId? id with
  | none => exact .raise _
  | some q =>
    dsimp only
    cases q.parameterizedIndex? with
    | some i => exact boundNative_advances _ base
    | none => exact askImmediate_advances q base

end Queries

/-! ## Loops -/

/-- **A machine advances in everything that an engine carries out**, as far as only functions in the
store are entered, and no native ones. -/
class Engine.Advancing (e : Engine) : Prop where
  called (function : Value) (arguments : Arguments) (binding : Option Value) :
    Along Advances (e.callBound function arguments binding)
  entered {f : FunctionFacet} {m : Machine} (parameters : Array Value) (restart : Option Restart) :
    m.HasFunction f → f.stub.isNative = false → m.Advances ((e.enter f parameters restart).after m)

instance {e : Engine} [advancing : e.Advancing] : e.CallsAlong Advances := ⟨advancing.called⟩

section Loops
variable {e : Engine} [advancing : e.Advancing]

/-- What is done with the body of a loop. -/
theorem bind_loopBody {α : Type} {body : Value} {k : FunctionFacet → Action α} {m : Machine}
    (next : ∀ f, m.HasFunction f → f.stub.isNative = false → m.Advances ((k f).after m)) :
    m.Advances ((loopBody body >>= k).after m) := by
  refine Along.bind_from (loopBody_along body m) fun f m₁ found => ?_
  cases body with
  | object o =>
    have looked : objectAt o m = .ok (m.object o) m := rfl
    rw [loopBody, Action.bind_ok looked] at found
    simp only [pure_bind] at found
    cases at_ : (m.object o).function?.filter fun f => !f.stub.isNative with
    | none =>
      rw [at_] at found
      exact absurd found (raise_ne_ok _ _ _ _)
    | some g =>
      rw [at_] at found
      cases found
      obtain ⟨function, script⟩ := Option.filter_eq_some_iff.mp at_
      exact next f ⟨o, function⟩ (by simpa using script)
  | _ => exact absurd found (raise_ne_ok _ _ _ _)

theorem countLoop_advances (first stop : Float) (body : Value) :
    Along Advances (countLoop e first stop body) := by
  refine fun m => bind_loopBody fun f has script => ?_
  split
  · exact .refl m
  · exact advancing.entered _ _ has script

theorem foreverLoop_advances (body : Value) : Along Advances (foreverLoop e body) :=
  fun _ => bind_loopBody fun _ has script => advancing.entered _ _ has script

theorem entryLoop_advances (target body : Value) : Along Advances (entryLoop e target body) := by
  cases target with
  | object o =>
    refine .bind (iterated_along o) fun o m => bind_loopBody fun f has script => ?_
    -- the body is still in the store when the keys and the values have been listed
    have listed {α : Type} {x : Action α} (along : Along Advances x) {m m₁ : Machine} {a : α}
        (run : x m = .ok a m₁) (has : m.HasFunction f) : m₁.HasFunction f := by
      have advanced := along m
      rw [Action.after, run] at advanced
      exact advanced.hasFunction has
    have keysAlong : Along Advances (objectKeys e o) := objectKeys_along o
    have valuesAlong : Along Advances (objectValues e o) := objectValues_along o
    refine Along.bind_from (keysAlong m) fun keys m₁ run => ?_
    refine Along.bind_from (valuesAlong m₁) fun values m₂ run' => ?_
    cases keys with
    | nil => exact .refl m₂
    | cons key keys =>
      exact advancing.entered _ _ (listed valuesAlong run' (listed keysAlong run has)) script
  | _ => exact .raise _

omit advancing in
theorem rebind_advances (i : Nat) (values : List Value) : Along Advances (rebind i values) := by
  delta rebind
  refine .bind (.read _) fun arity => .forM (fun entry => ?_) _
  exact writeReferrable_advances i entry.2 entry.1

theorem advance_advances (i : Nat) (condition : Restart) :
    Along Advances (advance e i condition) := by
  cases condition with
  | count current stop step bindsCounter =>
    suffices finish : ∀ current : Float, Along Advances _ from
      .ite (.bind (readReferrable_along i 0) fun v => .bind (asNumber_along v) finish)
        (.bind (.pure current) finish)
    intro current
    cases bindsCounter with
    | true =>
      exact .ite (.ite (.bind (writeReferrable_advances i 0 _) fun _ => .pure _) (.pure _))
        (.pure none)
    | false => exact .ite (.pure _) (.pure none)
  | forever => exact .pure _
  | entries keys values index =>
    simp only [advance]
    split
    · exact .bind (rebind_advances i _) fun _ => .pure _
    · exact .pure none

theorem startOver_advances (i : Nat) : Along Advances (startOver e i) := by
  delta startOver
  refine .bind (.read _) fun condition? => ?_
  cases condition? with
  | none => exact .pure false
  | some condition =>
    refine .bind (.updateFrame i fun _ => rfl) fun _ =>
      .bind (advance_advances i condition) fun next? => ?_
    cases next? with
    | none => exact .pure false
    | some next => exact .bind (.updateFrame i fun _ => rfl) fun _ => .pure true

end Loops

/-! ## One instruction -/

section Instructions
variable {e : Engine} [advancing : e.Advancing]

omit advancing in
theorem pushResult_advances (i : Nat) {x : Action Value} (h : Along Advances x) :
    Along Advances (pushResult i x) :=
  .bind h fun _ => .bind (.updateFrame i fun _ => rfl) fun _ => .pure _

theorem execute_advances {i : Nat} {m : Machine} (innermost : i + 1 = m.depth) (operand : Float)
    (op : Opcode) : m.Advances ((op.execute e i operand).after m) := by
  cases op with
  | pushNative => exact pushResult_advances i (nativeValue_advances _) m
  | countLoop =>
    refine pushResult_advances i (.bind (pop_along i) fun body => ?_) m
    refine .bind (pop_along i) fun stop => .bind (pop_along i) fun first => ?_
    refine .bind (asNumber_along first) fun first => .bind (asNumber_along stop) fun stop => ?_
    exact countLoop_advances first stop body
  | foreverLoop =>
    exact pushResult_advances i (.bind (pop_along i) fun body => foreverLoop_advances body) m
  | entryLoop =>
    exact pushResult_advances i (.bind (pop_along i) fun body =>
      .bind (pop_along i) fun target => entryLoop_advances target body) m
  | query =>
    exact pushResult_advances i (.bind (pop_along i) fun base => ask_advances base _) m
  | _ =>
    -- what remains is modest, so an errand
    refine (execute_errand (P := .alone) i ?_ ?_).advances fun j own => ?_
    · exact trivial
    · exact trivial
    · cases own
      exact innermost

/-- **A machine advances in an instruction** of the innermost frame. -/
theorem step_advances {i : Nat} {m : Machine} (innermost : i + 1 = m.depth) (ins : Instruction) :
    m.Advances ((step e i ins).after m) := by
  delta step
  cases Opcode.ofByte? ins.opcode with
  | some op => exact execute_advances innermost _ op
  | none => exact Along.raise _ m

end Instructions

end StubMachine
