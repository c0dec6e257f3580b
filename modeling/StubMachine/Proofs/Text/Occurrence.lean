import Mathlib.Data.List.Pairwise
import Mathlib.Data.List.Sort
import StubMachine.Text.Occurrence

/-!
# Successive occurrences

Several scans look for a key in a text, and they have to agree on where it is.  What they look for
is said once, without a scan: occurrences that **lie apart and leave none out** (`Successive`), so
that every occurrence of the key starts inside one of them.  There is one such list only
(`Successive.unique`), and every scan is shown to go by it: the one that lists the positions, the
one that stops at the first, the one that answers yes or no, and the ones that cut and replace.

Cutting gives the pieces between the occurrences (`split_eq_between`), and replacing puts something
else there (`replace_eq`).

An occurrence may overlap the one before it, and is then left out.  A scan therefore remembers how
many characters belong to the last occurrence, and the lemmas are about a scan at any point of the
text with any such number.
-/

namespace StubMachine.Text

/-! ## Occurring -/

theorem toList_ne_nil {text : String} (nonempty : text ≠ "") : text.toList ≠ [] :=
  mt String.toList_eq_nil_iff.mp nonempty

/-- **A key occurs in a text at a position.** -/
def OccursAt (key text : List Char) (p : Nat) : Prop := key <+: text.drop p

section
variable {key text : List Char} {c : Char} {p : Nat}

theorem occursAt_zero : OccursAt key text 0 ↔ key <+: text := Iff.rfl

theorem occursAt_succ : OccursAt key (c :: text) (p + 1) ↔ OccursAt key text p := Iff.rfl

theorem not_occursAt_nil (nonempty : key ≠ []) (p : Nat) : ¬ OccursAt key [] p := by
  intro occurs
  rw [OccursAt, List.drop_nil, List.prefix_nil] at occurs
  exact nonempty occurs

theorem occursAt_append (before : List Char) :
    OccursAt key (before ++ text) (before.length + p) ↔ OccursAt key text p := by
  rw [OccursAt, List.drop_length_add_append, OccursAt]

/-- A key is where it is when the text goes on. -/
theorem OccursAt.append (h : OccursAt key text p) (more : List Char) :
    OccursAt key (text ++ more) p := by
  rw [OccursAt, List.drop_append]
  exact h.trans (List.prefix_append _ _)

/-- An occurrence ends inside the text. -/
theorem OccursAt.le (h : OccursAt key text p) (nonempty : key ≠ []) :
    p + key.length ≤ text.length := by
  have short : key.length ≤ text.length - p := by simpa using h.length_le
  have positive : 0 < key.length := List.length_pos_iff.mpr nonempty
  omega

/-- An occurrence is the key, cut out of the text. -/
theorem OccursAt.take (h : OccursAt key text p) : (text.drop p).take key.length = key :=
  (List.prefix_iff_eq_take.mp h).symm

/-- **The successive occurrences of a key**: each is one, they lie apart in ascending order, and
every occurrence starts inside one of them. -/
structure Successive (key text : List Char) (positions : List Nat) : Prop where
  occur : ∀ p ∈ positions, OccursAt key text p
  apart : positions.Pairwise fun p q => p + key.length ≤ q
  cover : ∀ q, OccursAt key text q → ∃ p ∈ positions, p ≤ q ∧ q < p + key.length

end

namespace Successive
variable {key text : List Char} {positions : List Nat}

theorem ascending (h : Successive key text positions) (nonempty : key ≠ []) :
    positions.Pairwise (· < ·) :=
  h.apart.imp fun apart => Nat.lt_of_lt_of_le
    (Nat.lt_add_of_pos_right (List.length_pos_iff.mpr nonempty)) apart

/-- **They are those occurrences that start inside no earlier one of them.** -/
theorem mem_iff (h : Successive key text positions) {n : Nat} :
    n ∈ positions ↔ OccursAt key text n ∧ ∀ p ∈ positions, p < n → p + key.length ≤ n := by
  constructor
  · intro mem
    refine ⟨h.occur n mem, fun p mem' before => ?_⟩
    have apart : positions.Pairwise fun p q => p + key.length ≤ q ∨ q + key.length ≤ p :=
      h.apart.imp .inl
    have : Std.Symm fun p q : Nat => p + key.length ≤ q ∨ q + key.length ≤ p := ⟨fun _ _ => .symm⟩
    have := apart.forall mem' mem (Nat.ne_of_lt before)
    omega
  · rintro ⟨occurs, free⟩
    obtain ⟨p, mem, le, lt⟩ := h.cover n occurs
    rcases Nat.lt_or_eq_of_le le with before | rfl
    · have := free p mem before
      omega
    · exact mem

/-- **There is one list of successive occurrences only**, from left to right. -/
theorem unique {others : List Nat} (nonempty : key ≠ []) (h : Successive key text positions)
    (h' : Successive key text others) : positions = others := by
  have same (n : Nat) : n ∈ positions ↔ n ∈ others := by
    induction n using Nat.strong_induction_on with
    | _ n ih =>
      rw [h.mem_iff, h'.mem_iff]
      exact and_congr_right fun _ => ⟨fun free p mem before => free p ((ih p before).mpr mem) before,
        fun free p mem before => free p ((ih p before).mp mem) before⟩
  exact (h.ascending nonempty).eq_of_mem_iff (h'.ascending nonempty) fun {n} => same n

end Successive

/-! ## Scanning -/

section
variable {key : List Char}

theorem occurrencesFrom_occur {position skip : Nat} {text : List Char} {p : Nat}
    (mem : p ∈ occurrencesFrom key position skip text) :
    ∃ i, p = position + i ∧ skip ≤ i ∧ OccursAt key text i := by
  fun_induction occurrencesFrom key position skip text with
  | case1 => cases mem
  | case2 position skip c text ih =>
    obtain ⟨i, rfl, later, occurs⟩ := ih mem
    exact ⟨i + 1, by omega, by omega, occursAt_succ.mpr occurs⟩
  | case3 position c text here ih =>
    rcases List.mem_cons.mp mem with rfl | later
    · exact ⟨0, rfl, Nat.le_refl 0, List.isPrefixOf_iff_prefix.mp here⟩
    · obtain ⟨i, rfl, -, occurs⟩ := ih later
      exact ⟨i + 1, by omega, Nat.zero_le _, occursAt_succ.mpr occurs⟩
  | case4 position c text elsewhere ih =>
    obtain ⟨i, rfl, -, occurs⟩ := ih mem
    exact ⟨i + 1, by omega, Nat.zero_le _, occursAt_succ.mpr occurs⟩

theorem occurrencesFrom_apart (position skip : Nat) (text : List Char) :
    (occurrencesFrom key position skip text).Pairwise fun p q => p + key.length ≤ q := by
  fun_induction occurrencesFrom key position skip text with
  | case1 => exact .nil
  | case2 position skip c text ih => exact ih
  | case3 position c text here ih =>
    refine .cons (fun q mem => ?_) ih
    obtain ⟨i, rfl, later, -⟩ := occurrencesFrom_occur mem
    omega
  | case4 position c text elsewhere ih => exact ih

/-- What the scan does not skip it covers. -/
theorem occurrencesFrom_cover (nonempty : key ≠ []) {position skip : Nat} {text : List Char} {i : Nat}
    (later : skip ≤ i) (occurs : OccursAt key text i) :
    ∃ p ∈ occurrencesFrom key position skip text, p ≤ position + i ∧ position + i < p + key.length := by
  have positive : 0 < key.length := List.length_pos_iff.mpr nonempty
  fun_induction occurrencesFrom key position skip text generalizing i with
  | case1 => exact absurd occurs (not_occursAt_nil nonempty i)
  | case2 position skip c text ih =>
    obtain ⟨j, rfl⟩ : ∃ j, i = j + 1 := ⟨i - 1, by omega⟩
    obtain ⟨p, mem, le, lt⟩ := ih (by omega) (occursAt_succ.mp occurs)
    exact ⟨p, mem, by omega, by omega⟩
  | case3 position c text here ih =>
    -- an occurrence that overlaps this one is covered by it, and the scan skips no other
    by_cases inside : i < key.length
    · exact ⟨position, List.mem_cons_self, by omega, by omega⟩
    · obtain ⟨j, rfl⟩ : ∃ j, i = j + 1 := ⟨i - 1, by omega⟩
      obtain ⟨p, mem, le, lt⟩ := ih (by omega) (occursAt_succ.mp occurs)
      exact ⟨p, List.mem_cons_of_mem _ mem, by omega, by omega⟩
  | case4 position c text elsewhere ih =>
    cases i with
    | zero => exact absurd (List.isPrefixOf_iff_prefix.mpr (occursAt_zero.mp occurs)) elsewhere
    | succ j =>
      obtain ⟨p, mem, le, lt⟩ := ih (Nat.zero_le j) (occursAt_succ.mp occurs)
      exact ⟨p, mem, by omega, by omega⟩

/-- **The scan finds the successive occurrences.** -/
theorem occurrences_successive {key text : String} (nonempty : key ≠ "") :
    Successive key.toList text.toList (occurrences key text) := by
  have nonempty := toList_ne_nil nonempty
  refine ⟨fun p mem => ?_, occurrencesFrom_apart 0 0 _, fun q occurs => ?_⟩
  · obtain ⟨i, rfl, -, occurs⟩ := occurrencesFrom_occur mem
    rwa [Nat.zero_add]
  · have found := @occurrencesFrom_cover key.toList nonempty 0 0 text.toList q (Nat.zero_le q) occurs
    rwa [Nat.zero_add] at found

/-- The scan that stops at the first occurrence. -/
theorem firstFrom_eq_head? (position : Nat) (text : List Char) :
    firstFrom key position text = (occurrencesFrom key position 0 text).head? := by
  fun_induction firstFrom key position text with
  | case1 => rfl
  | case2 position c text here => rw [occurrencesFrom, if_pos here, List.head?_cons]
  | case3 position c text elsewhere ih => rw [occurrencesFrom, if_neg elsewhere, ih]

theorem first?_eq_head? (key text : String) : first? key text = (occurrences key text).head? :=
  firstFrom_eq_head? 0 _

/-- The scan that answers yes or no. -/
theorem occursIn_iff {text : List Char} : occursIn key text = true ↔ ∃ p, OccursAt key text p := by
  induction text with
  | nil =>
    rw [occursIn, List.isEmpty_iff]
    constructor
    · rintro rfl
      exact ⟨0, List.nil_prefix⟩
    · rintro ⟨p, occurs⟩
      by_contra nonempty
      exact not_occursAt_nil nonempty p occurs
  | cons c text ih =>
    rw [occursIn, Bool.or_eq_true, ih, List.isPrefixOf_iff_prefix]
    constructor
    · rintro (here | ⟨p, later⟩)
      · exact ⟨0, here⟩
      · exact ⟨p + 1, later⟩
    · rintro ⟨p, occurs⟩
      cases p with
      | zero => exact .inl occurs
      | succ p => exact .inr ⟨p, occurs⟩

end

/-! ## Cutting -/

/-- **The pieces of a text between some positions** and, after the last of them, at the end; what is
cut out at a position is `width` characters long, and the first piece begins at `start`. -/
def between (text : List Char) (width : Nat) : Nat → List Nat → List (List Char)
  | start, [] => [text.drop start]
  | start, p :: positions =>
    (text.drop start).take (p - start) :: between text width (p + width) positions

theorem length_between (text : List Char) (width start : Nat) (positions : List Nat) :
    (between text width start positions).length = positions.length + 1 := by
  induction positions generalizing start with
  | nil => rfl
  | cons p positions ih => rw [between, List.length_cons, List.length_cons, ih]

section
variable {key : List Char}

theorem splitFrom_ne_nil (skip : Nat) (piece text : List Char) :
    splitFrom key skip piece text ≠ [] := by
  fun_induction splitFrom key skip piece text with
  | case1 => exact List.cons_ne_nil _ _
  | case2 skip piece c text ih => exact ih
  | case3 piece c text here ih => exact List.cons_ne_nil _ _
  | case4 piece c text elsewhere ih => exact ih

/-- A text that goes on with a key goes on after it. -/
theorem append_drop_of_here (nonempty : key ≠ []) {c : Char} {text : List Char}
    (here : key.isPrefixOf (c :: text) = true) : key ++ text.drop (key.length - 1) = c :: text := by
  have whole := List.prefix_iff_eq_append.mp (List.isPrefixOf_iff_prefix.mp here)
  obtain ⟨n, width⟩ := Nat.exists_eq_succ_of_ne_zero (mt List.length_eq_zero_iff.mp nonempty)
  rw [width, List.drop_succ_cons] at whole
  rw [width]
  exact whole

/-- **The pieces are what lies between the occurrences.**  The scan is at `position`, in a piece that
has begun at `start`. -/
theorem splitFrom_eq_between (nonempty : key ≠ []) {whole piece text : List Char}
    {start position skip : Nat} (fresh : skip ≠ 0 → piece = [])
    (begun : start + piece.length = position + skip)
    (rest : whole.drop start = piece.reverse ++ text.drop skip) :
    splitFrom key skip piece text =
      between whole key.length start (occurrencesFrom key position skip text) := by
  have positive : 0 < key.length := List.length_pos_iff.mpr nonempty
  fun_induction splitFrom key skip piece text generalizing start position with
  | case1 skip piece =>
    rw [List.drop_nil, List.append_nil] at rest
    rw [occurrencesFrom, between, rest]
  | case2 skip piece c text ih =>
    exact ih (fun _ => fresh (Nat.succ_ne_zero skip)) (by omega) rest
  | case3 piece c text here ih =>
    have width : position - start = piece.reverse.length := by
      rw [List.length_reverse]
      omega
    have after : whole.drop (position + key.length) = text.drop (key.length - 1) := by
      obtain ⟨n, length⟩ := Nat.exists_eq_succ_of_ne_zero positive.ne'
      have further : position + key.length = start + (piece.reverse.length + key.length) := by omega
      rw [further, ← List.drop_drop, rest, List.drop_length_add_append, List.drop_zero, length,
        List.drop_succ_cons]
      rfl
    rw [occurrencesFrom, if_pos here, between, rest, width, List.take_left, List.cons_inj_right]
    exact ih (fun _ => rfl) (by simp only [List.length_nil]; omega) after
  | case4 piece c text elsewhere ih =>
    rw [occurrencesFrom, if_neg elsewhere]
    refine ih (fun impossible => absurd rfl impossible) ?_ ?_
    · rw [List.length_cons]
      omega
    · rw [rest, List.reverse_cons, List.append_assoc]
      rfl

/-- With the key between them the pieces are what has been cut. -/
theorem intercalate_splitFrom (nonempty : key ≠ []) (skip : Nat) (piece text : List Char) :
    key.intercalate (splitFrom key skip piece text) = piece.reverse ++ text.drop skip := by
  fun_induction splitFrom key skip piece text with
  | case1 skip piece => rw [List.intercalate_singleton, List.drop_nil, List.append_nil]
  | case2 skip piece c text ih => rw [ih, List.drop_succ_cons]
  | case3 piece c text here ih =>
    rw [List.intercalate_cons_of_ne_nil (splitFrom_ne_nil _ _ _), ih, List.reverse_nil,
      List.nil_append, List.append_assoc, append_drop_of_here nonempty here, List.drop_zero]
  | case4 piece c text elsewhere ih =>
    rw [ih, List.reverse_cons, List.append_assoc]
    rfl

/-- A piece does not contain the key: where the key would have to begin, the scan has seen that it
does not. -/
theorem not_occursAt_splitFrom (nonempty : key ≠ []) {skip : Nat} {piece text : List Char}
    (fresh : skip ≠ 0 → piece = [])
    (free : ∀ p < piece.length, ¬ OccursAt key (piece.reverse ++ text) p) :
    ∀ cut ∈ splitFrom key skip piece text, ∀ p, ¬ OccursAt key cut p := by
  -- the piece is free of the key because the text that it starts is, up to the end of the piece
  have piece_free {piece text : List Char}
      (free : ∀ p < piece.length, ¬ OccursAt key (piece.reverse ++ text) p) (p : Nat) :
      ¬ OccursAt key piece.reverse p := by
    intro occurs
    have inside := occurs.le nonempty
    have positive : 0 < key.length := List.length_pos_iff.mpr nonempty
    rw [List.length_reverse] at inside
    exact free p (by omega) (occurs.append text)
  fun_induction splitFrom key skip piece text with
  | case1 skip piece =>
    intro cut mem
    rw [List.mem_singleton.mp mem]
    exact piece_free free
  | case2 skip piece c text ih =>
    obtain rfl := fresh (Nat.succ_ne_zero skip)
    exact ih (fun _ => rfl) (fun p impossible => absurd impossible (Nat.not_lt_zero p))
  | case3 piece c text here ih =>
    intro cut mem
    rcases List.mem_cons.mp mem with rfl | later
    · exact piece_free free
    · exact ih (fun _ => rfl) (fun p impossible => absurd impossible (Nat.not_lt_zero p)) cut later
  | case4 piece c text elsewhere ih =>
    refine ih (fun impossible => absurd rfl impossible) fun p inside occurs => ?_
    rw [List.reverse_cons, List.append_assoc] at occurs
    rcases Nat.lt_or_eq_of_le (Nat.le_of_lt_succ inside) with before | rfl
    · exact free p before occurs
    -- the key does not begin with the character that has just been added
    · rw [← List.length_reverse, ← Nat.add_zero piece.reverse.length, occursAt_append] at occurs
      exact elsewhere (List.isPrefixOf_iff_prefix.mpr (occursAt_zero.mp occurs))

/-- Replacing writes the pieces, and the substitute between them. -/
theorem replaceFrom_eq (substitute : List Char) (skip : Nat) (piece written text : List Char) :
    replaceFrom key substitute skip (piece ++ written) text =
      written.reverse ++ substitute.intercalate (splitFrom key skip piece text) := by
  fun_induction splitFrom key skip piece text generalizing written with
  | case1 skip piece => rw [replaceFrom, List.intercalate_singleton, List.reverse_append]
  | case2 skip piece c text ih => exact ih written
  | case3 piece c text here ih =>
    have written_on := ih (substitute.reverse ++ (piece ++ written))
    rw [List.nil_append] at written_on
    rw [replaceFrom, if_pos here, written_on,
      List.intercalate_cons_of_ne_nil (splitFrom_ne_nil _ _ _)]
    simp
  | case4 piece c text elsewhere ih =>
    rw [replaceFrom, if_neg elsewhere]
    exact ih written

end

section
variable {token : String}

theorem split_of_ne (nonempty : token ≠ "") (text : String) :
    split token text = (splitFrom token.toList 0 [] text.toList).map String.ofList := by
  rw [split, if_neg (mt String.isEmpty_iff.mp nonempty)]

/-- **The pieces are what lies between the successive occurrences.** -/
theorem split_eq_between (nonempty : token ≠ "") (text : String) :
    split token text =
      (between text.toList token.length 0 (occurrences token text)).map String.ofList := by
  rw [split_of_ne nonempty]
  exact congrArg (List.map String.ofList)
    (splitFrom_eq_between (toList_ne_nil nonempty) (fun _ => rfl) rfl rfl)

/-- There is one piece more than there are occurrences. -/
theorem length_split (nonempty : token ≠ "") (text : String) :
    (split token text).length = (occurrences token text).length + 1 := by
  rw [split_eq_between nonempty, List.length_map, length_between]

/-- What is written with a separator between the pieces. -/
theorem intercalate_split (nonempty : token ≠ "") (separator text : String) :
    separator.intercalate (split token text) =
      String.ofList (separator.toList.intercalate (splitFrom token.toList 0 [] text.toList)) := by
  have texts : String.toList ∘ String.ofList = id := funext fun _ => String.toList_ofList
  refine String.toList_injective ?_
  rw [String.toList_intercalate, split_of_ne nonempty, List.map_map, texts, List.map_id,
    String.toList_ofList]

/-- **With the token between them the pieces are the text.** -/
theorem join_split (nonempty : token ≠ "") (text : String) :
    token.intercalate (split token text) = text := by
  rw [intercalate_split nonempty, intercalate_splitFrom (toList_ne_nil nonempty)]
  exact String.ofList_toList

/-- **No piece contains the token.** -/
theorem not_occursAt_split (nonempty : token ≠ "") {text piece : String}
    (mem : piece ∈ split token text) (p : Nat) : ¬ OccursAt token.toList piece.toList p := by
  rw [split_of_ne nonempty] at mem
  obtain ⟨cut, found, rfl⟩ := List.mem_map.mp mem
  rw [String.toList_ofList]
  exact not_occursAt_splitFrom (toList_ne_nil nonempty) (fun _ => rfl)
    (fun p impossible => absurd impossible (Nat.not_lt_zero p)) cut found p

/-- **Replacing is cutting, and putting something else between the pieces.** -/
theorem replace_eq (nonempty : token ≠ "") (substitute text : String) :
    replace token substitute text = substitute.intercalate (split token text) := by
  rw [intercalate_split nonempty, replace]
  exact congrArg String.ofList (replaceFrom_eq substitute.toList 0 [] [] text.toList)

end

end StubMachine.Text
