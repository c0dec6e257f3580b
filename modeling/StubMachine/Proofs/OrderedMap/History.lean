import Mathlib.Data.List.Induction
import Mathlib.Order.Lattice.Nat
import Mathlib.Order.Nat
import StubMachine.Proofs.OrderedMap

/-!
# What an ordered map remembers of its history

Nothing in an ordered map tells how it came about, and a removal renumbers every entry after the
one that is removed.  What a map has to answer is told by the changes that were made to it.  An
insertion of a key **stands** (`standing`) if the key has not been removed since, by itself or with
everything else.  The last insertion that stands gives the key its value (`LastValue`), and the
first one its place (`Precedes`).

A change adds an insertion to those that stand, or takes all of a key away, and leaves the others
alone (`mem_standing_concat`).  What is looked up, and the order of the keys, follow it change by
change, and so **a map answers and lists by its history** (`replay_remembers`), whatever the
changes and the keys.
-/

namespace StubMachine.OrderedMap

/-! ## Changes -/

/-- What is done to a map. -/
inductive Change (K V : Type)
  | insert (k : K) (v : V)
  | remove (k : K)
  | clear

/-- A change stores a value under a key. -/
def Change.Inserts {K V : Type} : Change K V → K → Prop
  | .insert k' _, k => k' = k
  | _, _ => False

/-- A change removes a key, by itself or with all others. -/
def Change.Drops {K V : Type} : Change K V → K → Prop
  | .insert _ _, _ => False
  | .remove k', k => k' = k
  | .clear, _ => True

section Changes
variable {K V : Type} [BEq K] [Hashable K] [LawfulBEq K] [LawfulHashable K]

/-- What a change answers, and the map that it leaves. -/
def Change.apply : Change K V → OrderedMap K V → Option V × OrderedMap K V
  | .insert k v, m => m.exchange k v
  | .remove k, m => m.take k
  | .clear, m => (none, m.clear)

/-- The map that a history of changes leaves of the empty one. -/
def replay (history : List (Change K V)) : OrderedMap K V :=
  history.foldl (fun m c => (c.apply m).2) empty

theorem replay_concat (history : List (Change K V)) (c : Change K V) :
    replay (history ++ [c]) = (c.apply (replay history)).2 := by
  rw [replay, List.foldl_append]
  rfl

end Changes

/-! ## What stands -/

section Standing
variable {K V : Type} {history : List (Change K V)} {c d : Change K V} {k : K} {v w : V} {n : Nat}

/-- **The insertions of a key that stand**: the key has not been removed since. -/
def standing (history : List (Change K V)) (k : K) : Set Nat :=
  {n | (∃ c, history[n]? = some c ∧ c.Inserts k) ∧
    ∀ i c, n < i → history[i]? = some c → ¬ c.Drops k}

/-- **The value that was last inserted** under a key, if the key has not been removed since. -/
def LastValue (history : List (Change K V)) (k : K) (v : V) : Prop :=
  ∃ n, IsGreatest (standing history k) n ∧ history[n]? = some (.insert k v)

/-- **One key comes before another**: of the insertions that stand, its first is the earlier one. -/
def Precedes (history : List (Change K V)) (k k' : K) : Prop :=
  ∃ n n', IsLeast (standing history k) n ∧ IsLeast (standing history k') n' ∧ n < n'

theorem lt_of_getElem? (at_ : history[n]? = some c) : n < history.length :=
  (List.getElem?_eq_some_iff.mp at_).1

theorem lt_of_mem_standing (stands : n ∈ standing history k) : n < history.length := by
  obtain ⟨c, at_, -⟩ := stands.1
  exact lt_of_getElem? at_

theorem getElem?_concat_iff :
    (history ++ [c])[n]? = some d ↔ history[n]? = some d ∨ (n = history.length ∧ c = d) := by
  rcases Nat.lt_or_ge n history.length with inside | beyond
  · rw [List.getElem?_append_left inside]
    simp [Nat.ne_of_lt inside]
  · rw [List.getElem?_append_right beyond, List.getElem?_eq_none beyond,
      List.getElem?_singleton]
    split
    · have : n = history.length := by omega
      simp [this]
    · have : n ≠ history.length := by omega
      simp [this]

/-- **What stands after one more change**: that change if it inserts the key, and what stood before
if the change does not remove the key. -/
theorem mem_standing_concat :
    n ∈ standing (history ++ [c]) k ↔
      (n = history.length ∧ c.Inserts k) ∨ (¬ c.Drops k ∧ n ∈ standing history k) := by
  simp only [standing, Set.mem_ofPred_eq, getElem?_concat_iff]
  constructor
  · rintro ⟨⟨d, at_ | ⟨rfl, rfl⟩, inserts⟩, kept⟩
    · exact .inr ⟨kept _ c (lt_of_getElem? at_) (.inr ⟨rfl, rfl⟩), ⟨d, at_, inserts⟩,
        fun i d later at_ => kept i d later (.inl at_)⟩
    · exact .inl ⟨rfl, inserts⟩
  · rintro (⟨rfl, inserts⟩ | ⟨keeps, ⟨d, at_, inserts⟩, kept⟩)
    · refine ⟨⟨c, .inr ⟨rfl, rfl⟩, inserts⟩, ?_⟩
      rintro i d later (at_ | ⟨rfl, -⟩)
      · exact absurd (lt_of_getElem? at_) (Nat.lt_asymm later)
      · exact absurd later (Nat.lt_irrefl _)
    · refine ⟨⟨d, .inl at_, inserts⟩, ?_⟩
      rintro i d later (at_ | ⟨-, rfl⟩)
      · exact kept i d later at_
      · exact keeps

/-- Nothing stands that was inserted under a key that was removed. -/
theorem standing_dropped (drops : c.Drops k) : standing (history ++ [c]) k = ∅ := by
  refine Set.eq_empty_iff_forall_notMem.mpr fun n stands => ?_
  rcases mem_standing_concat.mp stands with ⟨-, inserts⟩ | ⟨keeps, -⟩
  · cases c with
    | insert k' v => exact drops
    | remove k' => exact inserts
    | clear => exact inserts
  · exact keeps drops

/-- A change that neither inserts nor removes a key leaves what stands alone. -/
theorem standing_other (other : ¬ c.Inserts k) (keeps : ¬ c.Drops k) :
    standing (history ++ [c]) k = standing history k := by
  ext n
  rw [mem_standing_concat]
  constructor
  · rintro (⟨-, inserts⟩ | ⟨-, stands⟩)
    · exact absurd inserts other
    · exact stands
  · exact fun stands => .inr ⟨keeps, stands⟩

/-- A change that inserts a key gives it its value. -/
theorem lastValue_insert : LastValue (history ++ [.insert k v]) k w ↔ v = w := by
  have last : IsGreatest (standing (history ++ [.insert k v]) k) history.length := by
    refine ⟨mem_standing_concat.mpr (.inl ⟨rfl, rfl⟩), fun n stands => ?_⟩
    have := lt_of_mem_standing stands
    rw [List.length_append] at this
    exact Nat.le_of_lt_succ this
  constructor
  · rintro ⟨n, last', at_⟩
    rw [last'.unique last, List.getElem?_concat_length] at at_
    cases at_
    rfl
  · rintro rfl
    exact ⟨_, last, List.getElem?_concat_length⟩

/-- A key that was removed has no value. -/
theorem not_lastValue_dropped (drops : c.Drops k) : ¬ LastValue (history ++ [c]) k v := by
  rintro ⟨n, ⟨stands, -⟩, -⟩
  rw [standing_dropped drops] at stands
  exact stands

/-- A change that neither inserts nor removes a key leaves its value alone. -/
theorem lastValue_other (other : ¬ c.Inserts k) (keeps : ¬ c.Drops k) :
    LastValue (history ++ [c]) k v ↔ LastValue history k v := by
  simp only [LastValue, standing_other other keeps, getElem?_concat_iff]
  exact exists_congr fun n => and_congr_right fun last =>
    or_iff_left fun ⟨_, same⟩ => other (same ▸ rfl)

/-- A key has a value if an insertion of it stands. -/
theorem exists_lastValue : (∃ v, LastValue history k v) ↔ (standing history k).Nonempty := by
  constructor
  · rintro ⟨v, n, last, -⟩
    exact ⟨n, last.1⟩
  · intro nonempty
    have bounded : BddAbove (standing history k) :=
      ⟨history.length, fun n stands => Nat.le_of_lt (lt_of_mem_standing stands)⟩
    have last : IsGreatest (standing history k) (sSup (standing history k)) :=
      ⟨Nat.sSup_mem nonempty bounded, fun n => le_csSup bounded⟩
    obtain ⟨⟨c, at_, inserts⟩, -⟩ := last.1
    cases c with
    | insert k' v =>
      cases inserts
      exact ⟨v, _, last, at_⟩
    | remove k' => cases inserts
    | clear => cases inserts

/-- The first insertion that stands stays the first, until the key is removed. -/
theorem first_concat (first : IsLeast (standing history k) n) (keeps : ¬ c.Drops k) :
    IsLeast (standing (history ++ [c]) k) n := by
  refine ⟨mem_standing_concat.mpr (.inr ⟨keeps, first.1⟩), fun i stands => ?_⟩
  rcases mem_standing_concat.mp stands with ⟨rfl, -⟩ | ⟨-, stood⟩
  · exact Nat.le_of_lt (lt_of_mem_standing first.1)
  · exact first.2 stood

/-- An insertion of a key is the first if none stood before. -/
theorem first_insert (absent : ¬ (standing history k).Nonempty) :
    IsLeast (standing (history ++ [.insert k v]) k) history.length := by
  refine ⟨mem_standing_concat.mpr (.inl ⟨rfl, rfl⟩), fun i stands => ?_⟩
  rcases mem_standing_concat.mp stands with ⟨rfl, -⟩ | ⟨-, stood⟩
  · exact Nat.le_refl _
  · exact absurd ⟨i, stood⟩ absent

/-- What comes before another key goes on to do so, until one of them is removed. -/
theorem Precedes.concat {k' : K} (before : Precedes history k k') (keeps : ¬ c.Drops k)
    (keeps' : ¬ c.Drops k') : Precedes (history ++ [c]) k k' := by
  obtain ⟨n, n', first, first', lt⟩ := before
  exact ⟨n, n', first_concat first keeps, first_concat first' keeps', lt⟩

end Standing

/-! ## What a map remembers -/

section Remembering
variable {K V : Type} [BEq K] [Hashable K] [LawfulBEq K] [LawfulHashable K]
variable {history : List (Change K V)} {k : K} {v : V}

/-- What was removed is not found, and under other keys there is what was found before. -/
theorem get?_erase [DecidableEq K] (m : OrderedMap K V) (k k' : K) :
    (m.erase k).get? k' = if k = k' then none else m.get? k' := by
  refine Option.ext fun v => ?_
  rw [← mem_toList_iff, toList_erase, List.mem_filter, mem_toList_iff]
  by_cases same : k = k'
  · simp [same]
  · simp [same, Ne.symm same]

/-- **The map of a history finds under each key what was inserted last.** -/
theorem get?_replay : (replay history).get? k = some v ↔ LastValue history k v := by
  classical
  induction history using List.reverseRecOn generalizing k v with
  | nil =>
    refine iff_of_false (fun found => ?_) fun ⟨n, ⟨stands, _⟩, _⟩ => ?_
    · cases (get?_empty k).symm.trans found
    · exact Nat.not_lt_zero n (lt_of_mem_standing stands)
  | append_singleton history c ih =>
    rw [replay_concat]
    cases c with
    | insert k' w =>
      rw [Change.apply, exchange, get?_insert]
      by_cases same : k' = k
      · rw [if_pos same, same, lastValue_insert, Option.some.injEq]
      · rw [if_neg same, ih, lastValue_other (c := .insert k' w) same id]
    | remove k' =>
      rw [Change.apply, take, get?_erase]
      by_cases same : k' = k
      · rw [if_pos same]
        exact iff_of_false (fun found => nomatch found) (not_lastValue_dropped same)
      · rw [if_neg same, ih, lastValue_other (c := .remove k') id same]
    | clear =>
      rw [Change.apply, clear, get?_empty]
      exact iff_of_false (fun found => nomatch found) (not_lastValue_dropped trivial)

/-- The keys of the map are those with an insertion that stands. -/
theorem mem_keys_replay : k ∈ (replay history).keys ↔ (standing history k).Nonempty := by
  simp only [mem_keys_iff_get?, get?_replay, exists_lastValue]

/-- **The keys are listed in the order of their first insertions.** -/
theorem precedes_replay : (replay history).keys.Pairwise (Precedes history) := by
  classical
  induction history using List.reverseRecOn with
  | nil => exact .nil
  | append_singleton history c ih =>
    rw [replay_concat]
    cases c with
    | insert k w =>
      have others : (replay history).keys.Pairwise (Precedes (history ++ [.insert k w])) :=
        ih.imp fun before => before.concat id id
      rw [Change.apply, exchange, keys_insert]
      by_cases old : k ∈ (replay history).keys
      · rwa [if_pos old]
      · rw [if_neg old, List.pairwise_append]
        refine ⟨others, List.pairwise_singleton _ _, fun k' listed last mem => ?_⟩
        cases List.mem_singleton.mp mem
        -- whatever stands was inserted before this change
        have first := (mem_keys_replay.mp listed).isLeast_natFind
        exact ⟨_, _, first_concat first id, first_insert (mt mem_keys_replay.mpr old),
          lt_of_mem_standing first.1⟩
    | remove k =>
      rw [Change.apply, take, keys_erase]
      have kept (k') (mem : k' ∈ (replay history).keys.filter fun k' => !(k' == k)) :
          ¬ (Change.remove k : Change K V).Drops k' := by
        rintro rfl
        simp at mem
      -- the keys that are left are not dropped, so their first insertions are the same as before
      refine (ih.filter _).imp_of_mem fun mem mem' before => ?_
      exact before.concat (kept _ mem) (kept _ mem')
    | clear => exact .nil

/-- **A map remembers a history**: all that it answers and lists is told by the changes. -/
structure Remembers (m : OrderedMap K V) (history : List (Change K V)) : Prop where
  /-- The index holds the keys of the entries, each at its position, and nothing else. -/
  indexed : ∀ (k : K) (i : Nat), m.positions[k]? = some i ↔ m.toList[i]?.map Prod.fst = some k
  /-- No key has two entries. -/
  distinct : m.keys.Nodup
  /-- What is found under a key is the value inserted last. -/
  found : ∀ k v, m.get? k = some v ↔ LastValue history k v
  /-- A key is there if it has such a value. -/
  known : ∀ k, m.contains k = true ↔ ∃ v, LastValue history k v
  /-- An insertion answers with the value before it. -/
  replaced : ∀ k v w, ((Change.insert k v).apply m).1 = some w ↔ LastValue history k w
  /-- So does a removal. -/
  removed : ∀ k w, ((Change.remove k).apply m).1 = some w ↔ LastValue history k w
  /-- The entries are the keys with their values. -/
  listed : ∀ k v, (k, v) ∈ m.toList ↔ LastValue history k v
  /-- They stand in the order of the first insertions. -/
  ordered : m.keys.Pairwise (Precedes history)
  /-- No entry moves when a key is overwritten. -/
  overwritten : ∀ k v, k ∈ m.keys → ((Change.insert k v).apply m).2.keys = m.keys

theorem contains_iff (m : OrderedMap K V) : m.contains k = true ↔ ∃ v, m.get? k = some v := by
  rw [← mem_keys_iff_get?, mem_keys_iff, contains, Std.HashMap.contains_eq_isSome_getElem?,
    Option.isSome_iff_exists]

/-- **A map answers and lists by its history**, whatever has been inserted, removed and cleared. -/
theorem replay_remembers (history : List (Change K V)) :
    (replay history).Remembers history where
  indexed k i := by rw [positions_iff, keys, List.getElem?_map]
  distinct := nodup_keys _
  found _ _ := get?_replay
  known k := by simp only [contains_iff, get?_replay]
  replaced _ _ _ := get?_replay
  removed _ _ := get?_replay
  listed _ _ := mem_toList_iff.trans get?_replay
  ordered := precedes_replay
  overwritten k v old := by
    classical
    exact (keys_insert _ k v).trans (if_pos old)

/-- A key that is overwritten stays where it is, one after a removed key moves up, and one that is
inserted again comes last. -/
theorem replay_remembers_reinserted :
    let history : List (Change String Nat) := [.insert "b" 1, .insert "a" 2, .insert "c" 3,
      .insert "b" 10, .remove "a", .insert "a" 4]
    (replay history).Remembers history ∧ (replay history).keys = ["b", "c", "a"] ∧
      (replay history).positions["c"]? = some 1 ∧ (replay history).get? "b" = some 10 := by
  intro history
  have keys_eq : (replay history).keys = ["b", "c", "a"] := by
    simp [history, replay, Change.apply, exchange, take, keys_insert, keys_erase]
  refine ⟨replay_remembers history, keys_eq, ?_, ?_⟩
  · rw [positions_iff, keys_eq]
    rfl
  · simp [history, replay, Change.apply, exchange, take, get?_insert, get?_erase]

end Remembering

end StubMachine.OrderedMap
