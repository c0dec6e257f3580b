import StubMachine.Machine.Action

/-!
# Stores that grow

Much of what a machine does only adds objects to its store, or changes one of them besides.  The
machine has then **grown** (`Machine.Grown`): nothing but its objects is different, none is lost,
and those that may have changed are named.
-/

namespace StubMachine

open StubMachine.Action

namespace Machine

/-- **A machine has grown**: it has more objects, and of those it had, some at most are different. -/
structure Grown (m : Machine) (Changed : Nat → Prop) (m' : Machine) : Prop where
  rest : m' = { m with objects := m'.objects }
  size : m.objects.size ≤ m'.objects.size
  kept : ∀ i < m.objects.size, ¬ Changed i → m'.objects[i]? = m.objects[i]?

namespace Grown
variable {m m₁ m₂ : Machine} {Changed : Nat → Prop}

theorem refl (m : Machine) : m.Grown Changed m := ⟨rfl, Nat.le_refl _, fun _ _ _ => rfl⟩

theorem trans (h : m.Grown Changed m₁) (h' : m₁.Grown Changed m₂) : m.Grown Changed m₂ where
  rest := by
    rw [h'.rest, h.rest]
  size := Nat.le_trans h.size h'.size
  kept i lt same :=
    (h'.kept i (Nat.lt_of_lt_of_le lt h.size) same).trans (h.kept i lt same)

theorem mono {Changed' : Nat → Prop} (h : m.Grown Changed m₁)
    (fewer : ∀ i < m.objects.size, Changed i → Changed' i) : m.Grown Changed' m₁ :=
  ⟨h.rest, h.size, fun i lt same => h.kept i lt fun changed => same (fewer i lt changed)⟩

/-- An object that was there is still the same, unless it is one of those that are different. -/
theorem object (h : m.Grown Changed m₁) {o : ObjectId} (known : o.serial - 1 < m.objects.size)
    (same : ¬ Changed (o.serial - 1)) : m₁.object o = m.object o := by
  rw [Machine.object, Machine.object, Array.getD_eq_getD_getElem?, Array.getD_eq_getD_getElem?,
    h.kept _ known same]

end Grown

/-- The objects made between two states. -/
def Fresh (m m' : Machine) (o : ObjectId) : Prop :=
  m.objects.size < o.serial ∧ o.serial ≤ m'.objects.size

theorem Fresh.mono {m m₀ m' m₁ : Machine} {o : ObjectId} (fresh : m.Fresh m' o)
    (before : m₀.objects.size ≤ m.objects.size) (after : m'.objects.size ≤ m₁.objects.size) :
    m₀.Fresh m₁ o :=
  ⟨Nat.lt_of_le_of_lt before fresh.1, Nat.le_trans fresh.2 after⟩

end Machine

/-- Taking an object into the store makes the machine grow. -/
theorem newObject_grows (m : Machine) (object : Object) (Changed : Nat → Prop) :
    ∃ m', newObject object m = .ok ⟨m.objects.size + 1⟩ m' ∧ m.Grown Changed m' ∧
      m'.objects.size = m.objects.size + 1 ∧ m'.object ⟨m.objects.size + 1⟩ = object := by
  refine ⟨_, rfl, ⟨rfl, ?_, fun i lt _ => ?_⟩, ?_, ?_⟩
  · simp
  · simp [Array.getElem?_push, Nat.ne_of_lt lt]
  · simp
  · simp [Machine.object]

/-- Changing an object changes no other. -/
theorem updateObject_grows (m : Machine) (o : ObjectId) (f : Object → Object)
    (known : o.serial - 1 < m.objects.size) :
    ∃ m', updateObject o f m = .ok () m' ∧ m.Grown (· = o.serial - 1) m' ∧
      m'.objects.size = m.objects.size ∧ m'.object o = f (m.object o) := by
  refine ⟨_, rfl, ⟨rfl, ?_, fun i _ same => ?_⟩, ?_, ?_⟩
  · simp
  · simp [Array.getElem?_modify, Ne.symm same]
  · simp
  · simp [Machine.object, known, Array.getElem_modify_self]

end StubMachine
