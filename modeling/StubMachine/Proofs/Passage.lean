import Mathlib.Order.Defs.Unbundled
import StubMachine.Proofs.Calling
import StubMachine.Proofs.FrameDiscipline

/-!
# What an action passes through

An action is told by what its start and its end have to do with each other: it is **along**
a preorder on states if every run of it, however it ends, leads from a state to one above
it.  What is put together from such actions is along the same preorder, so a preorder is
followed through the operations of the machine one by one.

A `Passage` is a preorder that raising an error is along, and every change of something
else than the store and the code.  An **interlude** is made up of raisings, of calls of an
engine, and of changes of something else than objects and variables.  What calls leave
untouched, an interlude leaves untouched (`Machine.Interlude.untouched`).
-/

namespace StubMachine

open StubMachine.Action

/-- Every run leads from a state to one above it. -/
def Action.Along (R : Machine → Machine → Prop) {α : Type} (x : Action α) : Prop :=
  ∀ m, R m (x.after m)

namespace Action.Along
variable {R : Machine → Machine → Prop} {α β γ : Type}

/-- What ends where it started. -/
theorem stays [Std.Refl R] {x : Action α} (h : ∀ m, x.after m = m) : Along R x := fun m => by
  rw [h]
  exact Std.Refl.refl m

theorem pure [Std.Refl R] (a : α) : Along R (Pure.pure a) := stays fun _ => rfl

theorem read [Std.Refl R] (f : Machine → α) : Along R (Action.read f) := stays fun _ => rfl

theorem objectAt [Std.Refl R] (o : ObjectId) : Along R (Action.objectAt o) := read _

theorem throw [Std.Refl R] (failure : Failure) : Along R (MonadExcept.throw failure : Action α) :=
  stays fun _ => rfl

theorem fail [Std.Refl R] (f : Fault) : Along R (Action.fail f : Action α) := throw _

/-- A sequence may be told from an earlier state, of which more may be known. -/
theorem bind_since {x : Action α} {k : α → Action β} {m₀ m : Machine} (hx : R m₀ (x.after m))
    (hk : ∀ a m₁, x m = .ok a m₁ → R m₀ m₁ → R m₀ ((k a).after m₁)) :
    R m₀ ((x >>= k).after m) := by
  rw [Action.after] at hx ⊢
  rw [Action.bind_eq]
  cases run : x m with
  | ok a m₁ =>
    rw [run] at hx
    exact hk a m₁ run hx
  | error failure m₁ =>
    rw [run] at hx
    exact hx

/-- What follows need only be along for the result and in the state that there really are. -/
theorem bind_from [IsTrans Machine R] {x : Action α} {k : α → Action β} {m : Machine}
    (hx : R m (x.after m)) (hk : ∀ a m₁, x m = .ok a m₁ → R m₁ ((k a).after m₁)) :
    R m ((x >>= k).after m) :=
  bind_since hx fun a m₁ run first => IsTrans.trans _ _ _ first (hk a m₁ run)

theorem bind [IsTrans Machine R] {x : Action α} {k : α → Action β} (hx : Along R x)
    (hk : ∀ a, Along R (k a)) : Along R (x >>= k) := fun m =>
  bind_from (hx m) fun a m₁ _ => hk a m₁

theorem tryCatch_from [IsTrans Machine R] {x : Action α} {k : Failure → Action α} {m : Machine}
    (hx : R m (x.after m)) (hk : ∀ failure, Along R (k failure)) :
    R m ((tryCatch x k).after m) := by
  rw [Action.after] at hx ⊢
  rw [Action.tryCatch_eq]
  cases run : x m with
  | ok a m₁ =>
    rw [run] at hx
    exact hx
  | error failure m₁ =>
    rw [run] at hx
    exact IsTrans.trans _ _ _ hx (hk failure m₁)

theorem ite {c : Prop} [Decidable c] {x y : Action α} (hx : Along R x) (hy : Along R y) :
    Along R (if c then x else y) := by
  split
  · exact hx
  · exact hy

section Lists
variable [Std.Refl R] [IsTrans Machine R]

omit [Std.Refl R] in
/-- Going on unless something is amiss. -/
theorem unlessThen {c : Prop} [Decidable c] {x : Action PUnit} {y : Action α} (hx : Along R x)
    (hy : Along R y) : Along R (if c then (x >>= fun _ => y) else y) :=
  ite (bind hx fun _ => hy) hy

theorem mapM {f : γ → Action β} (h : ∀ a, Along R (f a)) (l : List γ) : Along R (l.mapM f) := by
  induction l with
  | nil => exact pure _
  | cons a l ih =>
    rw [List.mapM_cons]
    exact bind (h a) fun b => bind ih fun bs => pure _

theorem forM {f : γ → Action PUnit} (h : ∀ a, Along R (f a)) (l : List γ) : Along R (l.forM f) := by
  induction l with
  | nil => exact pure _
  | cons a l ih => exact bind (h a) fun _ => ih

theorem foldlM {f : β → γ → Action β} (h : ∀ b a, Along R (f b a)) (l : List γ) (b : β) :
    Along R (l.foldlM f b) := by
  induction l generalizing b with
  | nil => exact pure b
  | cons a l ih => exact bind (h b a) fun b => ih b

theorem filterM {f : γ → Action Bool} (h : ∀ a, Along R (f a)) (l : List γ) :
    Along R (l.filterM f) := by
  -- the library filters with an accumulator, so the induction is for every one of them
  suffices along : ∀ kept, Along R (List.filterAuxM f l kept) from bind (along []) fun _ => pure _
  induction l with
  | nil => exact fun kept => pure _
  | cons a l ih => exact fun kept => bind (h a) fun b => ih _

theorem forIn {f : γ → β → Action (ForInStep β)} (h : ∀ a b, Along R (f a b)) (l : List γ)
    (b : β) : Along R (ForIn.forIn l b f) := by
  induction l generalizing b with
  | nil => exact pure b
  | cons a l ih =>
    simp only [List.forIn_cons]
    refine bind (h a b) fun next => ?_
    cases next with
    | done b => exact pure b
    | yield b => exact ih b

end Lists
end Action.Along

/-! ## Passages -/

/-- The store and the code are as they were, and so are the functions on the call stack. -/
structure Machine.Beside (m m' : Machine) : Prop where
  objects : m'.objects = m.objects
  slots : m'.slots = m.slots
  files : m'.files = m.files
  stubs : m'.stubs = m.stubs
  natives : m'.natives = m.natives
  depth : m'.depth = m.depth
  pool : m'.frames.size = m.frames.size
  frames (j : Nat) : (m.frame j).Progressed (m'.frame j)

namespace Machine.Beside
variable {m m' : Machine}

/-- A change that leaves the frames alone, too. -/
theorem of_eq (h : m' = { m with
    config := m'.config, types := m'.types, reentry := m'.reentry, modules := m'.modules
    externals := m'.externals, pending := m'.pending, raised := m'.raised
    lastUnhandled := m'.lastUnhandled, draws := m'.draws, events := m'.events
    history := m'.history }) : m.Beside m' := by
  rw [h]
  exact ⟨rfl, rfl, rfl, rfl, rfl, rfl, rfl, fun _ => rfl⟩

/-- A frame moves on. -/
theorem modifyFrame (m : Machine) (i : Nat) {f : Frame → Frame}
    (progress : ∀ fr : Frame, fr.Progressed (f fr)) :
    m.Beside { m with frames := m.frames.modify i f } where
  objects := rfl
  slots := rfl
  files := rfl
  stubs := rfl
  natives := rfl
  depth := rfl
  pool := Array.size_modify
  frames j := by
    rw [frame_modify]
    split
    · exact progress _
    · rfl

end Machine.Beside

/-- A preorder that is not about more than objects, variables, code and the functions on the call
stack, and not about the making of error objects. -/
class Machine.Passage (R : Machine → Machine → Prop) : Prop extends Std.Refl R, IsTrans Machine R
  where
  aside {m m' : Machine} : m.Beside m' → R m m'
  raised (detail : Value) : Along R (signalError detail)

/-- The calls of an engine are along a preorder. -/
class Engine.CallsAlong (e : Engine) (R : Machine → Machine → Prop) : Prop where
  called (function : Value) (arguments : Arguments) (binding : Option Value) :
    Along R (e.callBound function arguments binding)

/-- Whatever an engine carries out is along a preorder. -/
class Engine.RunsAlong (e : Engine) (R : Machine → Machine → Prop) : Prop where
  performed (request : Request) : Along R (e.perform request)

instance {e : Engine} {R : Machine → Machine → Prop} [runs : e.RunsAlong R] : e.CallsAlong R :=
  ⟨fun function arguments binding => runs.performed (.call function arguments binding)⟩

/-- A raising is the signal and nothing else. -/
theorem raiseError_after {α : Type} (detail : Value) (m : Machine) :
    (raiseError detail : Action α).after m = (signalError detail).after m := by
  rw [raiseError, Action.after, Action.after, Action.bind_eq]
  cases signalError detail m with
  | ok _ m' => rfl
  | error failure m' => rfl

namespace Action.Along
variable {R : Machine → Machine → Prop} {α : Type}

section
variable [passage : Machine.Passage R]

theorem raiseError (detail : Value) : Along R (Action.raiseError detail : Action α) := fun m => by
  rw [raiseError_after]
  exact passage.raised detail m

theorem raise (f : Fault) : Along R (Action.raise f : Action α) := raiseError _

/-- A change beside the store and the code. -/
theorem aside (f : Machine → Machine) (beside : ∀ m : Machine, m.Beside (f m)) :
    Along R (Action.update f) := fun m => passage.aside (beside m)

theorem updateFrame (i : Nat) {f : Frame → Frame} (progress : ∀ fr : Frame, fr.Progressed (f fr)) :
    Along R (Action.updateFrame i f) :=
  aside _ fun m => .modifyFrame m i progress

theorem raiseSend (payload : Value) : Along R (Action.raiseSend payload : Action α) :=
  bind (aside _ fun _ => .of_eq rfl) fun _ => throw _

end

section
variable {e : Engine} [calls : e.CallsAlong R]

theorem callBound (function : Value) (arguments : Arguments) (binding : Option Value) :
    Along R (e.callBound function arguments binding) :=
  calls.called function arguments binding

theorem call (function : Value) (arguments : Arguments) : Along R (e.call function arguments) :=
  callBound function arguments none

end

theorem enter {e : Engine} [runs : e.RunsAlong R] (f : FunctionFacet) (parameters : Array Value)
    (restart : Option Restart) : Along R (e.enter f parameters restart) :=
  runs.performed (.enter f parameters restart)

end Action.Along

/-! ## Interludes -/

namespace Machine

/-- **An interlude**: the objects and the variables stay as they are, an
error object is made, or a function is called and does what it does. -/
inductive Interlude (e : Engine) : Machine → Machine → Prop
  | aside {m m' : Machine} : m'.objects = m.objects → m'.slots = m.slots → Interlude e m m'
  | raised (detail : Value) (m : Machine) : Interlude e m ((signalError detail).after m)
  | called (function : Value) (arguments : Arguments) (binding : Option Value) (m : Machine) :
    Interlude e m ((e.callBound function arguments binding).after m)
  | trans {m m₁ m₂ : Machine} : Interlude e m m₁ → Interlude e m₁ m₂ → Interlude e m m₂

/-- Every object that there was and every variable is as it was. -/
structure Untouched (m m' : Machine) : Prop where
  size : m.objects.size ≤ m'.objects.size
  objects : ∀ k < m.objects.size, m'.objects[k]? = m.objects[k]?
  slots : m'.slots = m.slots

namespace Untouched
variable {m m₁ m₂ : Machine}

theorem trans (h : m.Untouched m₁) (h' : m₁.Untouched m₂) : m.Untouched m₂ where
  size := Nat.le_trans h.size h'.size
  objects k known := by
    rw [h'.objects k (Nat.lt_of_lt_of_le known h.size), h.objects k known]
  slots := h'.slots.trans h.slots

end Untouched

namespace Interlude
variable {e : Engine} {m m' : Machine}

theorem refl (m : Machine) : m.Interlude e m := .aside rfl rfl

instance : Passage (Interlude e) where
  refl := refl
  trans _ _ _ := .trans
  aside beside := .aside beside.objects beside.slots
  raised := .raised

instance : e.CallsAlong (Interlude e) := ⟨.called⟩

theorem untouched_signalError (detail : Value) (m : Machine) :
    m.Untouched ((signalError detail).after m) := by
  -- the error object and those of its call stack are new
  obtain ⟨o, m', same, grown, run⟩ := raiseError_grows (α := Unit) detail m
  have after : (signalError detail).after m = m'.signalled .error (.object o) := by
    rw [← raiseError_after (α := Unit), Action.after, run]
  rw [after]
  exact ⟨grown.size, fun k known => grown.kept k known not_false, same.slots⟩

/-- **What the calls leave untouched, an interlude leaves untouched.** -/
theorem untouched
    (calls : ∀ function arguments binding (n : Machine),
      n.Untouched ((e.callBound function arguments binding).after n))
    (h : m.Interlude e m') : m.Untouched m' := by
  induction h with
  | aside objects slots => exact ⟨objects ▸ Nat.le_refl _, fun k _ => by rw [objects], slots⟩
  | raised detail n => exact untouched_signalError detail n
  | called function arguments binding n => exact calls function arguments binding n
  | trans _ _ ih ih' => exact ih.trans ih'

end Interlude
end Machine

end StubMachine
