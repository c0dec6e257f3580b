import Mathlib.Data.List.Dedup
import Mathlib.Data.List.Induction
import Mathlib.Data.List.Nodup
import StubMachine.OrderedMap

/-!
# Ordered maps as lists

An ordered map is as good as the list of its entries.  **No key occurs in it twice**
(`OrderedMap.nodup_keys`), and what is found under a key is what stands beside it in the list
(`OrderedMap.mem_toList_iff`).  So each operation can be told by what it does to the list:
a new key goes to the end, an old one keeps its place, and a key that is removed is filtered
out.

A list of entries may have several with one key.  **Its map has the last of them**
(`OrderedMap.mem_ofList_iff`), so it is as long as the list only if the keys are distinct.
-/

namespace StubMachine.OrderedMap

section Reading
variable {K V : Type} [BEq K] [Hashable K]

/-- **What is found under a key stands beside it**, and the other way round. -/
theorem mem_toList_iff {m : OrderedMap K V} {k : K} {v : V} :
    (k, v) ∈ m.toList ↔ m.get? k = some v := by
  rw [toList, Array.mem_toList_iff, Array.mem_iff_getElem?, get?]
  constructor
  · rintro ⟨i, at_⟩
    have known : m.positions[k]? = some i := (m.indexed k i).mpr (by rw [at_]; rfl)
    simp only [known, at_, Option.map_some]
  · intro found
    cases known : m.positions[k]? with
    | none =>
      rw [known] at found
      cases found
    | some i =>
      simp only [known] at found
      obtain ⟨⟨k', v'⟩, at_, rfl⟩ := Option.map_eq_some_iff.mp found
      have stored := (m.indexed k i).mp known
      rw [at_] at stored
      cases stored
      exact ⟨i, at_⟩

/-- The keys are those under which something is found. -/
theorem mem_keys_iff_get? {m : OrderedMap K V} {k : K} : k ∈ m.keys ↔ ∃ v, m.get? k = some v := by
  simp only [keys, List.mem_map, ← mem_toList_iff]
  constructor
  · rintro ⟨⟨_, v⟩, mem, rfl⟩
    exact ⟨v, mem⟩
  · rintro ⟨v, mem⟩
    exact ⟨(k, v), mem, rfl⟩

end Reading

section Writing
variable {K V : Type} [BEq K] [Hashable K] [LawfulBEq K] [LawfulHashable K]

/-- What is there after a value was stored is that value, and what there was under other keys. -/
theorem mem_insert_iff {m : OrderedMap K V} {k k' : K} {v w : V} :
    (k', w) ∈ (m.insert k v).toList ↔ (k = k' ∧ v = w) ∨ (k ≠ k' ∧ (k', w) ∈ m.toList) := by
  classical
  rw [mem_toList_iff, mem_toList_iff, get?_insert]
  by_cases same : k = k'
  · simp [same]
  · simp [same]

/-- What is there after a value was stored was there before, or is that value under its key. -/
theorem mem_insert {m : OrderedMap K V} {k : K} {v : V} {e : K × V}
    (h : e ∈ (m.insert k v).toList) : e ∈ m.toList ∨ e = (k, v) := by
  obtain ⟨k', w⟩ := e
  rcases mem_insert_iff.mp h with ⟨rfl, rfl⟩ | ⟨-, old⟩
  · exact .inr rfl
  · exact .inl old

/-- A new key goes to the end. -/
theorem toList_insert {m : OrderedMap K V} {k : K} (new : k ∉ m.keys) (v : V) :
    (m.insert k v).toList = m.toList ++ [(k, v)] := by
  fun_cases insert m k v with
  | case1 i known => exact absurd (mem_keys_iff.mpr ⟨i, known⟩) new
  | case2 unknown => simp [toList]

theorem toList_foldl_insert (m : OrderedMap K V) {entries : List (K × V)}
    (distinct : (m.keys ++ entries.map Prod.fst).Nodup) :
    (entries.foldl (fun m e => m.insert e.1 e.2) m).toList = m.toList ++ entries := by
  induction entries generalizing m with
  | nil => simp
  | cons e entries ih =>
    have new : e.1 ∉ m.keys := by
      intro member
      exact (List.nodup_append.mp distinct).2.2 _ member _ (by simp) rfl
    have inserted := toList_insert new e.2
    rw [List.foldl_cons, ih (m.insert e.1 e.2), inserted, List.append_assoc]
    · rfl
    · rw [keys, inserted, List.map_append, List.append_assoc]
      exact distinct

/-- A list without repeated keys is the list of its map. -/
theorem toList_ofList {entries : List (K × V)} (distinct : (entries.map Prod.fst).Nodup) :
    (ofList entries).toList = entries :=
  toList_foldl_insert empty distinct

omit [Hashable K] [LawfulHashable K] in
/-- In a list without repeated keys, the entry at a position is the only one with its key. -/
private theorem eraseIdx_eq_filter {entries : List (K × V)} (distinct : (entries.map Prod.fst).Nodup)
    {p : Nat} {k : K} (at_ : (entries.map Prod.fst)[p]? = some k) :
    entries.eraseIdx p = entries.filter fun e => !(e.1 == k) := by
  induction entries generalizing p with
  | nil => rfl
  | cons e entries ih =>
    obtain ⟨first, rest⟩ := List.nodup_cons.mp distinct
    cases p with
    | zero =>
      cases at_
      -- the key is not among those that follow
      have others : entries.filter (fun e' => !(e'.1 == e.1)) = entries := by
        refine List.filter_eq_self.mpr fun e' mem => ?_
        have : e'.1 ≠ e.1 := fun same => first (same ▸ List.mem_map_of_mem mem)
        simpa using this
      simpa using others.symm
    | succ p =>
      have other : e.1 ≠ k := by
        rintro rfl
        exact first (List.mem_of_getElem? at_)
      rw [List.eraseIdx_cons_succ, List.filter_cons_of_pos (by simpa using other), ih rest at_]

/-- **A key that is removed is filtered out**; the other entries keep their order. -/
theorem toList_erase (m : OrderedMap K V) (k : K) :
    (m.erase k).toList = m.toList.filter fun e => !(e.1 == k) := by
  fun_cases erase m k with
  | case1 p known =>
    rw [toList, Array.toList_eraseIdx]
    exact eraseIdx_eq_filter m.nodup_keys (positions_iff.mp known)
  | case2 unknown =>
    refine (List.filter_eq_self.mpr fun e mem => ?_).symm
    have : e.1 ≠ k := by
      rintro rfl
      obtain ⟨i, known⟩ := mem_keys_iff.mp (List.mem_map_of_mem mem)
      cases unknown.symm.trans known
    simpa using this

theorem keys_erase (m : OrderedMap K V) (k : K) :
    (m.erase k).keys = m.keys.filter fun k' => !(k' == k) := by
  rw [keys, toList_erase, keys, List.filter_map]
  rfl

/-- What is left after a key was removed was there before, under other keys. -/
theorem mem_erase {m : OrderedMap K V} {k : K} {e : K × V} (h : e ∈ (m.erase k).toList) :
    e ∈ m.toList ∧ e.1 ≠ k := by
  rw [toList_erase, List.mem_filter] at h
  exact ⟨h.1, by simpa using h.2⟩

/-- Nothing is left of a map without its keys. -/
theorem erase_all {W : Type} {m : OrderedMap K V} {others : List (K × W)}
    (all : others.map Prod.fst = m.toList.map Prod.fst) :
    (others.foldl (fun left e => left.erase e.1) m).toList = [] := by
  -- what is left was there before, and its key is none of those that were removed
  have left (others : List (K × W)) : ∀ (m : OrderedMap K V) (e : K × V),
      e ∈ (others.foldl (fun left e => left.erase e.1) m).toList →
        e ∈ m.toList ∧ e.1 ∉ others.map Prod.fst := by
    induction others with
    | nil => exact fun m e mem => ⟨mem, by simp⟩
    | cons other others ih =>
      intro m e mem
      obtain ⟨mem, fresh⟩ := ih _ e mem
      obtain ⟨mem, new⟩ := mem_erase mem
      exact ⟨mem, by simp [new, fresh]⟩
  refine List.eq_nil_iff_forall_not_mem.mpr fun e mem => ?_
  obtain ⟨mem, fresh⟩ := left others m e mem
  exact fresh (all ▸ List.mem_map_of_mem mem)

end Writing

section Listed
variable {K V : Type} [BEq K] [Hashable K] [LawfulBEq K] [LawfulHashable K]
variable {entries : List (K × V)} {k : K} {v : V}

/-- **The last value for a key** in a list of entries. -/
def LastFor (entries : List (K × V)) (k : K) (v : V) : Prop :=
  ∃ before after, entries = before ++ (k, v) :: after ∧ k ∉ after.map Prod.fst

omit [BEq K] [Hashable K] [LawfulBEq K] [LawfulHashable K] in
/-- The entry at the end is the last for its key. -/
theorem lastFor_concat {k' : K} {v' : V} :
    LastFor (entries ++ [(k', v')]) k v ↔ (k' = k ∧ v' = v) ∨ (k' ≠ k ∧ LastFor entries k v) := by
  constructor
  · rintro ⟨before, after, split, last⟩
    rcases List.eq_nil_or_concat after with rfl | ⟨after, e, rfl⟩
    · obtain ⟨-, same⟩ := List.append_inj' split rfl
      cases same
      exact .inl ⟨rfl, rfl⟩
    · rw [List.concat_eq_append, ← List.cons_append, ← List.append_assoc] at split
      obtain ⟨rfl, same⟩ := List.append_inj' split rfl
      cases same
      rw [List.concat_eq_append, List.map_append, List.mem_append, not_or] at last
      exact .inr ⟨fun same => last.2 (List.mem_singleton.mpr same.symm), before, after, rfl, last.1⟩
  · rintro (⟨rfl, rfl⟩ | ⟨other, before, after, rfl, last⟩)
    · exact ⟨entries, [], rfl, List.not_mem_nil⟩
    · refine ⟨before, after ++ [(k', v')], by rw [List.append_assoc]; rfl, ?_⟩
      rw [List.map_append, List.mem_append, not_or]
      exact ⟨last, fun mem => other (List.mem_singleton.mp mem).symm⟩

theorem ofList_concat (e : K × V) :
    ofList (entries ++ [e]) = (ofList entries).insert e.1 e.2 := by
  rw [ofList, List.foldl_append]
  rfl

/-- **Of the entries with one key, the map of a list has the last.** -/
theorem mem_ofList_iff : (k, v) ∈ (ofList entries).toList ↔ LastFor entries k v := by
  induction entries using List.reverseRecOn generalizing k v with
  | nil =>
    constructor
    · exact fun mem => absurd mem List.not_mem_nil
    · rintro ⟨before, after, none, -⟩
      exact absurd none.symm (List.append_ne_nil_of_right_ne_nil _ (List.cons_ne_nil _ _))
  | append_singleton entries e ih =>
    obtain ⟨k', v'⟩ := e
    rw [ofList_concat, mem_insert_iff, ih, lastFor_concat]

/-- The map of a list has the keys of the list. -/
theorem mem_keys_ofList : k ∈ (ofList entries).keys ↔ k ∈ entries.map Prod.fst := by
  classical
  induction entries using List.reverseRecOn with
  | nil => exact Iff.rfl
  | append_singleton entries e ih =>
    rw [List.map_append, List.mem_append, ← ih, ofList_concat, mem_keys_iff_get?, mem_keys_iff_get?,
      get?_insert]
    by_cases same : e.1 = k
    · simp [same]
    · simp [same, Ne.symm same]

/-- **It has as many entries as the list has different keys.** -/
theorem length_ofList [DecidableEq K] :
    (ofList entries).toList.length = (entries.map Prod.fst).dedup.length := by
  rw [← List.length_map Prod.fst]
  have distinct := (List.perm_ext_iff_of_nodup (nodup_keys (ofList entries))
    (List.nodup_dedup (entries.map Prod.fst))).mpr
  refine (distinct fun k => ?_).length_eq
  rw [List.mem_dedup]
  exact mem_keys_ofList

theorem length_ofList_eq_iff :
    (ofList entries).toList.length = entries.length ↔ (entries.map Prod.fst).Nodup := by
  classical
  constructor
  · intro all
    rw [length_ofList, ← List.length_map Prod.fst] at all
    exact List.dedup_eq_self.mp ((List.dedup_sublist _).eq_of_length all)
  · intro distinct
    rw [toList_ofList distinct]

end Listed

end StubMachine.OrderedMap
