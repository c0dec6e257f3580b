import Std.Data.HashMap

/-!
# Maps that remember insertion order

An `OrderedMap` is a finite map whose entries are listed in the order in which
their keys were first inserted.  Overwriting a key keeps its place; removing a
key closes the gap, so a key that is inserted again goes to the end.

Two parts are kept in step: the array of entries, which is what iteration sees,
and a hash index from each key to the position of its entry, which is what
look-up uses.  **The index is exact** (`OrderedMap.indexed`): it holds a key at
a position precisely when the entry at that position has that key.  Hence no key
occurs twice, and every entry can be found.
-/

namespace StubMachine

universe u v

/-- A finite map from `K` to `V` that lists its entries in insertion order. -/
structure OrderedMap (K : Type u) (V : Type v) [BEq K] [Hashable K] where
  /-- The entries, in the order in which their keys were inserted. -/
  entries : Array (K × V)
  /-- The position of each key's entry. -/
  positions : Std.HashMap K Nat
  /-- The index holds exactly the keys of the entries, at their positions. -/
  indexed : ∀ (k : K) (i : Nat), positions[k]? = some i ↔ entries[i]?.map Prod.fst = some k

namespace OrderedMap

variable {K : Type u} {V : Type v} [BEq K] [Hashable K]

/-! ## Reading -/

/-- The map without entries. -/
def empty : OrderedMap K V where
  entries := #[]
  positions := ∅
  indexed k i := by simp

instance : Inhabited (OrderedMap K V) := ⟨empty⟩

/-- The number of entries. -/
def size (m : OrderedMap K V) : Nat := m.entries.size

/-- Whether there is no entry. -/
def isEmpty (m : OrderedMap K V) : Bool := m.entries.isEmpty

/-- The value stored under a key. -/
def get? (m : OrderedMap K V) (k : K) : Option V :=
  match m.positions[k]? with
  | some i => m.entries[i]?.map Prod.snd
  | none => none

/-- Whether a key has an entry. -/
def contains (m : OrderedMap K V) (k : K) : Bool := m.positions.contains k

/-- The entries as a list, in insertion order. -/
def toList (m : OrderedMap K V) : List (K × V) := m.entries.toList

/-- The keys, in insertion order. -/
def keys (m : OrderedMap K V) : List K := m.toList.map Prod.fst

/-- The values, in the order of their keys. -/
def values (m : OrderedMap K V) : List V := m.toList.map Prod.snd

@[simp] theorem keys_empty : (empty : OrderedMap K V).keys = [] := rfl

/-! ## Writing -/

/-- Renaming the values of a list of entries leaves the index exact. -/
private theorem indexed_modify {m : OrderedMap K V} (i : Nat) (v : V) (k : K) (j : Nat) :
    m.positions[k]? = some j ↔
      ((m.entries.modify i fun e => (e.1, v))[j]?).map Prod.fst = some k := by
  rw [m.indexed, Array.getElem?_modify]
  split
  · simp only [Option.map_map]
    rfl
  · rfl

/-- An indexed position lies inside the entries. -/
private theorem position_lt {m : OrderedMap K V} {k : K} {i : Nat}
    (h : m.positions[k]? = some i) : i < m.entries.size := by
  have := (m.indexed k i).mp h
  by_cases hi : i < m.entries.size
  · exact hi
  · rw [Array.getElem?_eq_none (by omega)] at this
    simp at this

/-- A key's position in the index is its place among the keys. -/
theorem positions_iff {m : OrderedMap K V} {k : K} {i : Nat} :
    m.positions[k]? = some i ↔ m.keys[i]? = some k := by
  rw [m.indexed, keys, toList, List.getElem?_map, Array.getElem?_toList]

/-- The index knows exactly the keys. -/
theorem mem_keys_iff {m : OrderedMap K V} {k : K} : k ∈ m.keys ↔ ∃ i, m.positions[k]? = some i := by
  simp only [positions_iff, List.mem_iff_getElem?]

/-- No key occurs twice. -/
theorem nodup_keys (m : OrderedMap K V) : m.keys.Nodup := by
  rw [List.Nodup, List.pairwise_iff_getElem]
  intro i j first second lt same
  have here := positions_iff.mpr (List.getElem?_eq_getElem first)
  have there := positions_iff.mpr (List.getElem?_eq_getElem second)
  rw [← same, here, Option.some.injEq] at there
  omega

/-- Each position becomes one less for the key of an entry that moves up. -/
def moveUp (positions : Std.HashMap K Nat) (moved : List (K × V)) : Std.HashMap K Nat :=
  moved.foldl (fun positions e => positions.modify e.1 (· - 1)) positions

/-- The entries that move up are those after the one that is removed. -/
private theorem keys_drop {m : OrderedMap K V} {p : Nat} (h : p < m.entries.size) :
    ((m.entries.eraseIdx p h).toList.drop p).map Prod.fst = m.keys.drop (p + 1) := by
  rw [Array.toList_eraseIdx, List.eraseIdx_eq_take_drop_succ,
    List.drop_left' (List.length_take_of_le (Nat.le_of_lt h)), List.map_drop]
  rfl

variable [LawfulBEq K] [LawfulHashable K]

private theorem indexed_push {m : OrderedMap K V} {k : K} (h : m.positions[k]? = none) (v : V)
    (k' : K) (i : Nat) :
    (m.positions.insert k m.entries.size)[k']? = some i ↔
      ((m.entries.push (k, v))[i]?).map Prod.fst = some k' := by
  rw [Std.HashMap.getElem?_insert, Array.getElem?_push]
  by_cases hk : k = k'
  · subst hk
    simp only [beq_self_eq_true, if_true, Option.some.injEq]
    by_cases hi : i = m.entries.size
    · simp [hi]
    · simp only [hi, if_false]
      rw [← m.indexed, h]
      simp [Ne.symm hi]
  · simp only [beq_iff_eq, hk, if_false]
    rw [m.indexed]
    by_cases hi : i = m.entries.size
    · subst hi
      simp [hk]
    · simp [hi]

/-- Store a value under a key: an old key keeps its place, a new one goes to the end. -/
def insert (m : OrderedMap K V) (k : K) (v : V) : OrderedMap K V :=
  match h : m.positions[k]? with
  | some i =>
    { entries := m.entries.modify i fun e => (e.1, v)
      positions := m.positions
      indexed := indexed_modify i v }
  | none =>
    { entries := m.entries.push (k, v)
      positions := m.positions.insert k m.entries.size
      indexed := indexed_push h v }

@[simp] theorem get?_empty (k : K) : (empty : OrderedMap K V).get? k = none := by
  simp [get?, empty]

/-- A value that was stored is found under its key, and under other keys what was found before. -/
theorem get?_insert [DecidableEq K] (m : OrderedMap K V) (k k' : K) (v : V) :
    (m.insert k v).get? k' = if k = k' then some v else m.get? k' := by
  fun_cases insert m k v with
  | case1 i known =>
    have stored := (m.indexed k i).mp known
    by_cases same : k = k'
    · subst same
      simp only [get?, known, Array.getElem?_modify, if_true]
      cases entry : m.entries[i]? with
      | none => simp [entry] at stored
      | some e => rfl
    · simp only [get?, if_neg same]
      cases found : m.positions[k']? with
      | none => rfl
      | some j =>
        have other : i ≠ j := by
          rintro rfl
          exact same (Option.some.inj (stored.symm.trans ((m.indexed k' i).mp found)))
        simp only [Array.getElem?_modify, if_neg other]
  | case2 unknown =>
    simp only [get?, Std.HashMap.getElem?_insert, beq_iff_eq]
    by_cases same : k = k'
    · simp [same]
    · simp only [if_neg same]
      cases found : m.positions[k']? with
      | none => rfl
      | some j => simp only [Array.getElem?_push, if_neg (Nat.ne_of_lt (position_lt found))]

/-- An old key keeps its place, a new one goes to the end. -/
theorem keys_insert [DecidableEq K] (m : OrderedMap K V) (k : K) (v : V) :
    (m.insert k v).keys = if k ∈ m.keys then m.keys else m.keys ++ [k] := by
  fun_cases insert m k v with
  | case1 i known =>
    rw [if_pos (mem_keys_iff.mpr ⟨i, known⟩), keys, toList, keys, toList, ← Array.toList_map,
      ← Array.toList_map]
    refine congrArg Array.toList (Array.ext_getElem? fun j => ?_)
    rw [Array.getElem?_map, Array.getElem?_map, Array.getElem?_modify]
    split
    · rw [Option.map_map]
      rfl
    · rfl
  | case2 unknown =>
    have new : k ∉ m.keys := fun old => by
      obtain ⟨i, known⟩ := mem_keys_iff.mp old
      cases unknown.symm.trans known
    rw [if_neg new, keys, toList, keys, toList, Array.toList_push, List.map_append]
    rfl

/-- Among entries with different keys, each moves up once. -/
private theorem getElem?_moveUp {moved : List (K × V)} (distinct : (moved.map Prod.fst).Nodup)
    (positions : Std.HashMap K Nat) (k : K) :
    (moveUp positions moved)[k]? =
      if k ∈ moved.map Prod.fst then positions[k]?.map (· - 1) else positions[k]? := by
  induction moved generalizing positions with
  | nil => simp [moveUp]
  | cons e moved ih =>
    obtain ⟨first, rest⟩ := List.nodup_cons.mp distinct
    rw [moveUp, List.foldl_cons, ← moveUp, ih rest, Std.HashMap.getElem?_modify]
    -- an entry that has moved is not met again
    by_cases same : e.1 = k
    · subst same
      simp only [if_neg first, beq_self_eq_true, if_true, List.map_cons, List.mem_cons_self]
    · simp only [beq_iff_eq, same, if_false, List.map_cons, List.mem_cons, Ne.symm same, false_or]

/-- The index of what is left: the key is gone, and the positions after it are one less. -/
private theorem getElem?_moveUp_erase {m : OrderedMap K V} {k : K} {p : Nat}
    (h : m.positions[k]? = some p) (k' : K) :
    (moveUp (m.positions.erase k)
        ((m.entries.eraseIdx p (position_lt h)).toList.drop p))[k']? =
      if k == k' then none else m.positions[k']?.map fun j => if p < j then j - 1 else j := by
  have distinct := m.nodup_keys.sublist (List.drop_sublist (p + 1) _)
  rw [getElem?_moveUp (by rwa [keys_drop]), keys_drop, Std.HashMap.getElem?_erase]
  by_cases same : k = k'
  · simp [same]
  · simp only [beq_iff_eq, same, if_false]
    cases known : m.positions[k']? with
    | none => simp
    | some j =>
      have after : k' ∈ m.keys.drop (p + 1) ↔ p < j := by
        simp only [List.mem_iff_getElem?, List.getElem?_drop, ← positions_iff, known,
          Option.some.injEq]
        exact ⟨fun ⟨i, at_⟩ => by omega, fun later => ⟨j - (p + 1), by omega⟩⟩
      simp only [after, Option.map_some, apply_ite some]

private theorem indexed_eraseIdx {m : OrderedMap K V} {k : K} {p : Nat}
    (h : m.positions[k]? = some p) (k' : K) (i : Nat) :
    (moveUp (m.positions.erase k)
        ((m.entries.eraseIdx p (position_lt h)).toList.drop p))[k']? = some i ↔
      ((m.entries.eraseIdx p (position_lt h))[i]?).map Prod.fst = some k' := by
  rw [getElem?_moveUp_erase h, Array.getElem?_eraseIdx]
  have hp := (m.indexed k p).mp h
  by_cases hk : k = k'
  · subst hk
    simp only [beq_self_eq_true, if_true, reduceCtorEq, false_iff]
    split
    · rw [← m.indexed, h]
      simp only [Option.some.injEq]
      omega
    · rw [← m.indexed, h]
      simp only [Option.some.injEq]
      omega
  · simp only [beq_iff_eq, hk, if_false, Option.map_eq_some_iff]
    constructor
    · rintro ⟨j, hj, hi⟩
      have hne : j ≠ p := by
        rintro rfl
        have := (m.indexed k' j).mp hj
        rw [hp] at this
        exact hk (Option.some.inj this)
      have hj' := (m.indexed k' j).mp hj
      split at hi
      · have : ¬ i < p := by omega
        have hij : i + 1 = j := by omega
        rw [if_neg this, hij]
        simpa using hj'
      · have : i < p := by omega
        rw [if_pos this, ← hi]
        simpa using hj'
    · intro hi
      by_cases hlt : i < p
      · rw [if_pos hlt] at hi
        refine ⟨i, (m.indexed k' i).mpr (by simpa using hi), ?_⟩
        rw [if_neg (by omega)]
      · rw [if_neg hlt] at hi
        refine ⟨i + 1, (m.indexed k' (i + 1)).mpr (by simpa using hi), ?_⟩
        rw [if_pos (by omega)]
        omega

/-- Remove a key's entry, if there is one; the entries after it move up, and the index follows
each of them. -/
def erase (m : OrderedMap K V) (k : K) : OrderedMap K V :=
  match h : m.positions[k]? with
  | some p =>
    { entries := m.entries.eraseIdx p (position_lt h)
      positions := moveUp (m.positions.erase k)
        ((m.entries.eraseIdx p (position_lt h)).toList.drop p)
      indexed := indexed_eraseIdx h }
  | none => m

/-- Store a value and report the one it replaces. -/
def exchange (m : OrderedMap K V) (k : K) (v : V) : Option V × OrderedMap K V :=
  (m.get? k, m.insert k v)

/-- Remove a key and report the value it had. -/
def take (m : OrderedMap K V) (k : K) : Option V × OrderedMap K V :=
  (m.get? k, m.erase k)

/-- A map with every entry removed. -/
def clear (_ : OrderedMap K V) : OrderedMap K V := empty

/-- The map of a list of entries; of several entries with one key the last value
counts, at the place of the first. -/
def ofList (entries : List (K × V)) : OrderedMap K V :=
  entries.foldl (fun m e => m.insert e.1 e.2) empty

end OrderedMap

/-- Equal texts have equal hashes. -/
instance lawfulHashableText : LawfulHashable String := inferInstance

end StubMachine
