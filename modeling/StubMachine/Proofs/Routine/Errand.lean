import StubMachine.Proofs.Raising

/-!
# Errands

Most operations do even less than a routine may: they look at the state, change entries,
raise errors and make calls, and go on with what comes back.  Such an operation is an
`Errand`.  **An errand neither makes a function, closures apart, nor enters one without
calling it, and it leaves nothing to native code or to the embedder.**  An errand of an
instruction may also move its frame forward, and assign to variables as far as it is
licensed.

Every errand is a routine (`Errand.routine`), so what has been shown to be an errand need
not be shown to be a routine.

An errand with a **narrow** reach only makes calls without arguments, as conversions do,
which ask the object that they convert.  One that is **still** makes no calls at all.
-/

namespace StubMachine

open StubMachine.Action

/-- The calls that an errand may make. -/
inductive Reach
  | still
  | narrow
  | wide

/-- Whether a call with certain arguments is within reach. -/
def Reach.Allows : Reach → Arguments → Prop
  | still, _ => False
  | narrow, arguments => arguments = []
  | wide, _ => True

/-- A reach that takes in calls without arguments. -/
class Reach.Asking (ρ : Reach) : Prop where
  allows_nil : ρ.Allows []

instance : Reach.narrow.Asking := ⟨rfl⟩

instance : Reach.wide.Asking := ⟨trivial⟩

/-- The frame after an instruction of its own code has moved it forward. -/
structure Frame.Forwarded (f f' : Frame) : Prop where
  advanced : f.Advanced f'
  pc : f.pc ≤ f'.pc

/-- **An errand** with a reach and a license. -/
inductive Errand (ρ : Reach) (P : License) : Rank → {α : Type} → Procedure α → Prop
  | pure {r : Rank} {α : Type} (a : α) : Errand ρ P r fun _ => (Pure.pure a : Action α)
  | bind {r : Rank} {α β : Type} {x : Procedure α} {k : Engine → α → Action β} :
      Errand ρ P r x → (∀ a, Errand ρ P r fun e => k e a) → Errand ρ P r fun e => x e >>= k e
  /-- Look at the state. -/
  | read {r : Rank} {α : Type} (f : Machine → α) : Errand ρ P r fun _ => Action.read f
  /-- Change entries. -/
  | furnish {r : Rank} (f : Machine → Machine) (h : ∀ m : Machine, m.Furnished (f m)) :
      Errand ρ P r fun _ => update f
  | raiseError {r : Rank} {α : Type} (detail : Value) :
      Errand ρ P r fun _ => (Action.raiseError detail : Action α)
  | callBound {r : Rank} (function : Value) (arguments : Arguments) (binding : Option Value) :
      ρ.Allows arguments → Errand ρ P r fun e => e.callBound function arguments binding
  | listen {r : Rank} (function response : Value) :
      ρ = .wide → Errand ρ P r fun e => StubMachine.listen e function response
  /-- Move the frame of the instruction forward. -/
  | frame (i : Nat) (f : Frame → Frame) (h : ∀ fr : Frame, fr.Forwarded (f fr)) :
      Errand ρ P (.instruction i) fun _ => updateFrame i f
  /-- Assign to a variable of the frame. -/
  | assign (i slot : Nat) (v : Value) :
      P.assigning i slot → Errand ρ P (.instruction i) fun _ => writeReferrable i slot v
  /-- Make a closure over the scope of the frame. -/
  | closure (i : Nat) (id : UInt32) (types : Option (Array TypeId)) :
      Errand ρ P (.instruction i) fun _ => makeClosure i id types

namespace Errand

variable {ρ : Reach} {P : License} {r : Rank} {α β : Type}

/-- **Every errand is a routine.** -/
theorem routine {x : Procedure α} (h : Errand ρ P r x) : Routine P r x := by
  induction h with
  | pure a => exact .pure a
  | bind _ _ ihx ihk => exact .bind ihx ihk
  | read f => exact .read f
  | furnish f furnished => exact .store f fun m => (furnished m).stored
  | raiseError detail => exact .raiseError detail
  | callBound function arguments binding => exact .callBound function arguments binding
  | listen function response => exact .listen function response
  | frame i f forwarded => exact .frame i f fun fr => (forwarded fr).advanced
  | assign i slot v allowed => exact .assign i slot v allowed
  | closure i id types => exact .closure i id types

theorem raise (f : Fault) : Errand ρ P r fun _ => (Action.raise f : Action α) :=
  .raiseError _

theorem ask [asking : ρ.Asking] (function : Value) : Errand ρ P r fun e => e.call function [] :=
  .callBound _ _ _ asking.allows_nil

theorem call (function : Value) (arguments : Arguments) :
    Errand .wide P r fun e => e.call function arguments :=
  .callBound _ _ _ trivial

theorem objectAt (o : ObjectId) : Errand ρ P r fun _ => Action.objectAt o := .read _

theorem updateObject (o : ObjectId) {change : Object → Object}
    (h : Object.KeepsFunction change) : Errand ρ P r fun _ => Action.updateObject o change :=
  .furnish _ fun _ => .updated o h

/-- Taking an object into the store that is no function. -/
theorem newObject {o : Object} (h : o.function? = none) :
    Errand ρ P r fun _ => Action.newObject o := by
  show Errand ρ P r fun _ => do
    let id ← Action.read fun m => (⟨m.objects.size + 1⟩ : ObjectId)
    update fun m => { m with objects := m.objects.push o }
    return id
  exact .bind (.read _) fun id => .bind (.furnish _ fun _ => .added h) fun _ => .pure _

theorem newBlank : Errand ρ P r fun _ => Action.newBlank := newObject rfl

theorem newList (values : Array Value) : Errand ρ P r fun _ => Action.newList values :=
  .bind (newObject rfl) fun _ => .pure _

theorem ite {c : Prop} [Decidable c] {x y : Procedure α} (hx : Errand ρ P r x)
    (hy : Errand ρ P r y) : Errand ρ P r fun e => if c then x e else y e := by
  split
  · exact hx
  · exact hy

theorem mapM {γ : Type} {f : Engine → γ → Action β} (hf : ∀ a, Errand ρ P r fun e => f e a)
    (l : List γ) : Errand ρ P r fun e => l.mapM (f e) := by
  induction l with
  | nil => exact .pure _
  | cons a l ih =>
    simp only [List.mapM_cons]
    exact .bind (hf a) fun b => .bind ih fun bs => .pure _

theorem forM {γ : Type} {f : Engine → γ → Action PUnit} (l : List γ)
    (hf : ∀ a ∈ l, Errand ρ P r fun e => f e a) : Errand ρ P r fun e => l.forM (f e) := by
  induction l with
  | nil => exact .pure _
  | cons a l ih =>
    exact .bind (hf a List.mem_cons_self) fun _ => ih fun b hb => hf b (List.mem_cons_of_mem _ hb)

end Errand

end StubMachine
