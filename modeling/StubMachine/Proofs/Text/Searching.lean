import StubMachine.Native.Catalog
import StubMachine.Proofs.Enumeration
import StubMachine.Proofs.InTurn
import StubMachine.Proofs.Numeral.Integer
import StubMachine.Proofs.Text.Occurrence

/-!
# The native functions that search a text

Four functions look for a key in a text: one lists the positions at which it occurs, one gives the
first of them, one counts them and one says whether there is any.  **They are one search**
(`search_family_consistent`): what they answer is told by the successive occurrences of the key.  A
fifth function cuts a part out of a text, and at each of these positions that part is the key.

What a key is converted from may run code, so the state in which the functions end is the one in
which the conversion ends.
-/

namespace StubMachine

open StubMachine.Action

namespace Native

/-! ## What the functions read -/

/-- **A small position is the index that its number is read as.** -/
theorem indexArgument_ofNat {args : Array Value} {i n : Nat} (given : argument args i = .ofNat n)
    (small : n < 2 ^ 53) (what : String) (m : Machine) :
    indexArgument args i what m = .ok n m := by
  have bound : (n : Int).natAbs < 2 ^ 53 := by omega
  have finite : Binary64.isFinite (Binary64.ofInteger n) = true :=
    (Binary64.finite_ofInteger bound).1
  have whole : ¬ Binary64.truncate (Binary64.ofInteger n) < 0 := by
    rw [Binary64.truncate_ofInteger bound]
    omega
  have zero : Binary64.IsInteger 0.0 0 := Binary64.Stands.zero .positive
  have positive : (0.0 : Float) ≤ Binary64.ofInteger n :=
    (zero.le_iff (.ofInteger (by omega))).mpr (Int.natCast_nonneg n)
  have key := Key.ofValue_ofNat small
  rw [Value.ofNat, Key.ofValue, finite, decide_eq_false whole, if_neg (by decide),
    Except.ok.injEq, Key.index.injEq] at key
  rw [indexArgument, given, Value.ofNat]
  show (if _ then _ else _ : Action Nat) m = _
  rw [if_pos (Bool.and_eq_true_iff.mpr ⟨decide_eq_true positive, finite⟩), key]
  rfl

section
variable {e : Engine} {args : Array Value} {s key : String} {m m₁ : Machine}

theorem baseString_ok (base : argument args 0 = .string s) (m : Machine) :
    baseString args m = .ok s m := by
  rw [baseString, stringArgument, base]
  rfl

theorem searchKey_ok (named : asString e (argument args 1) m = .ok key m₁) (nonempty : key ≠ "") :
    searchKey e args m = .ok key m₁ := by
  rw [searchKey, Action.bind_ok named, if_neg (mt String.isEmpty_iff.mp nonempty)]
  rfl

theorem keyOccurrences_ok (base : argument args 0 = .string s)
    (named : asString e (argument args 1) m = .ok key m₁) (nonempty : key ≠ "") :
    keyOccurrences e args m = .ok (Text.occurrences key s) m₁ := by
  rw [keyOccurrences, Action.bind_ok (baseString_ok base m),
    Action.bind_ok (searchKey_ok named nonempty)]
  rfl

/-! ## What they answer -/

theorem searchText_ok (base : argument args 0 = .string s)
    (named : asString e (argument args 1) m = .ok key m₁) (nonempty : key ≠ "") :
    searchText e args m =
      .ok ((Text.occurrences key s).head?.elim (.number (-1.0)) Value.ofNat) m₁ := by
  rw [searchText, Action.bind_ok (baseString_ok base m),
    Action.bind_ok (searchKey_ok named nonempty), Text.first?_eq_head?]
  cases (Text.occurrences key s).head? with
  | none => rfl
  | some position => rfl

theorem searchAll_ok (base : argument args 0 = .string s)
    (named : asString e (argument args 1) m = .ok key m₁) (nonempty : key ≠ "") :
    searchAll e args m = .ok (.object ⟨m₁.objects.size + 1⟩)
      (m₁.withList ((Text.occurrences key s).map Value.ofNat).toArray) := by
  rw [searchAll, Action.bind_ok (keyOccurrences_ok base named nonempty)]
  rfl

theorem countText_ok (base : argument args 0 = .string s)
    (named : asString e (argument args 1) m = .ok key m₁) (nonempty : key ≠ "") :
    countText e args m = .ok (.ofNat (Text.occurrences key s).length) m₁ := by
  rw [countText, Action.bind_ok (keyOccurrences_ok base named nonempty)]
  rfl

theorem containsText_ok (base : argument args 0 = .string s)
    (named : asString e (argument args 1) m = .ok key m₁) :
    containsText e args m = .ok (.boolean (Text.containsText key s)) m₁ := by
  rw [containsText, Action.bind_ok (baseString_ok base m), Action.bind_ok named]
  rfl

/-- The part of a text where a key occurs is the key. -/
theorem subset_occurrence {p : Nat} (base : argument args 0 = .string s) (nonempty : key ≠ "")
    (occurs : Text.OccursAt key.toList s.toList p)
    (low : indexArgument args 1 "from" m = .ok p m)
    (high : indexArgument args 2 "to" m = .ok (p + key.length - 1) m) :
    subset args m = .ok (.string key) m := by
  have some : key.toList ≠ [] := Text.toList_ne_nil nonempty
  have positive : 0 < key.length := List.length_pos_iff.mpr some
  have inside : p + key.length ≤ s.length := occurs.le some
  have width : p + key.length - 1 - p + 1 = key.toList.length := by
    show _ = key.length
    omega
  rw [subset, Action.bind_ok low, Action.bind_ok high, if_neg (by omega), base]
  show (if _ then _ else _ : Action Value) m = _
  rw [if_neg (by omega), width, occurs.take, String.ofList_toList]
  rfl

end

/-- **The functions that search a text are one search.**  What they find are the successive
occurrences of the key: one lists them all, one gives the first of them, or minus one if there is
none, and one counts them.  Whether there are any is told by a fourth.  The part of the text that
begins where the key is found and is as long as the key is the key; its ends are given as numbers,
which hold every position of a text that is not enormous. -/
theorem search_family_consistent (e : Engine) {args : Array Value} {s key : String}
    {m m₁ : Machine} (base : argument args 0 = .string s)
    (named : asString e (argument args 1) m = .ok key m₁) (nonempty : key ≠ "") :
    ∃ positions : List Nat, Text.Successive key.toList s.toList positions ∧
      positions.Pairwise (· < ·) ∧
      runQuery e args .searchAll m = .ok (.object ⟨m₁.objects.size + 1⟩)
        (m₁.withList (positions.map Value.ofNat).toArray) ∧
      runQuery e args .search m = .ok (positions.head?.elim (.number (-1.0)) Value.ofNat) m₁ ∧
      runQuery e args .count m = .ok (.ofNat positions.length) m₁ ∧
      (∃ found, runQuery e args .contains m = .ok (.boolean found) m₁ ∧
        (found = true ↔ ∃ p, Text.OccursAt key.toList s.toList p)) ∧
      (∀ p ∈ positions, ∀ (part : Array Value) (m' : Machine), argument part 0 = .string s →
        indexArgument part 1 "from" m' = .ok p m' →
        indexArgument part 2 "to" m' = .ok (p + key.length - 1) m' →
        runQuery e part .subset m' = .ok (.string key) m') ∧
      (s.length ≤ 2 ^ 53 → ∀ p ∈ positions, ∀ m' : Machine,
        runQuery e #[.string s, .ofNat p, .ofNat (p + key.length - 1)] .subset m' =
          .ok (.string key) m') := by
  have some : key.toList ≠ [] := Text.toList_ne_nil nonempty
  have successive : Text.Successive key.toList s.toList (Text.occurrences key s) :=
    Text.occurrences_successive nonempty
  refine ⟨Text.occurrences key s, successive, successive.ascending some,
    searchAll_ok base named nonempty, searchText_ok base named nonempty,
    countText_ok base named nonempty,
    ⟨Text.containsText key s, containsText_ok base named, Text.occursIn_iff⟩,
    fun p mem part m' base' low high =>
      subset_occurrence base' nonempty (successive.occur p mem) low high,
    fun short p mem m' => ?_⟩
  have occurs := successive.occur p mem
  have positive : 0 < key.length := List.length_pos_iff.mpr some
  have inside : p + key.length ≤ s.length := occurs.le some
  exact subset_occurrence rfl nonempty occurs (indexArgument_ofNat rfl (by omega) "from" m')
    (indexArgument_ofNat rfl (by omega) "to" m')

/-- Of three occurrences of a key two overlap, and the later one of these is left out. -/
theorem search_family_consistent_overlap :
    let e : Engine := ⟨0, fun _ => pure .empty⟩
    let args := #[Value.string "ñañaññañ", .string "ñañ"]
    let m := Machine.initial .standard
    argument args 0 = .string "ñañaññañ" ∧ asString e (argument args 1) m = .ok "ñañ" m ∧
      "ñañ" ≠ "" ∧ runQuery e args .searchAll m = .ok (.object ⟨1⟩)
        (m.withList #[.ofNat 0, .ofNat 5]) := by
  intro e args m
  have nonempty : "ñañ" ≠ "" := by decide
  refine ⟨rfl, rfl, nonempty, ?_⟩
  obtain ⟨positions, successive, -, all, -⟩ :=
    @search_family_consistent e args _ _ m m rfl rfl nonempty
  have same : positions = [0, 5] :=
    successive.unique (by decide) (Text.occurrences_successive nonempty)
  rw [same] at all
  exact all

end Native

end StubMachine
