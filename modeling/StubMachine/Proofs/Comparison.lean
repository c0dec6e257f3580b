import StubMachine.Proofs.Calling
import StubMachine.Proofs.Numeral.Integer
import StubMachine.Proofs.Text.Order

/-!
# Comparing values

An operator looks at its left operand, and converts the right one as that asks.  **What the six
comparisons say of two strings or two numbers comes from one comparison of them** (`SixFold`): for
strings it is the order of texts, for numbers that of binary64, in which a NaN compares with
nothing.  Equality and inequality are opposites for all values (`comparisons_consistent`).
-/

namespace StubMachine

open StubMachine.Action

/-! ## Comparing numbers -/

namespace Arithmetic

open Float.Model

theorem swap_magnitudes (e e' : Int) (k k' : Nat) :
    (compare e' e).then (compare k' k) = ((compare e e').then (compare k k')).swap := by
  rw [Ordering.swap_then, ← Std.OrientedOrd.eq_swap, ← Std.OrientedOrd.eq_swap]

/-- Comparing the other way round turns the answer round. -/
theorem unpacked_compare_swap (u u' : UnpackedFloat) :
    u'.compare u = (u.compare u').map Ordering.swap := by
  cases u with
  | notANumber =>
    cases u' with
    | infinity s => cases s <;> rfl
    | finite s => cases s <;> rfl
    | _ => rfl
  | infinity s =>
    cases u' with
    | infinity s' => cases s <;> cases s' <;> rfl
    | finite s' => cases s <;> cases s' <;> rfl
    | _ => cases s <;> rfl
  | zero s =>
    cases u' with
    | infinity s' => cases s' <;> rfl
    | finite s' => cases s' <;> rfl
    | _ => rfl
  | finite s k e =>
    cases u' with
    | infinity s' => cases s <;> cases s' <;> rfl
    | finite s' k' e' =>
      cases s with
      | negative =>
        cases s' with
        | negative => exact congrArg (some ·.swap) (swap_magnitudes e e' k k')
        | positive => rfl
      | positive =>
        cases s' with
        | negative => rfl
        | positive => exact congrArg some (swap_magnitudes e e' k k')
    | _ => cases s <;> rfl

/-- Only a NaN does not compare. -/
theorem unpacked_compare_eq_none {u u' : UnpackedFloat} :
    u.compare u' = none ↔ u.isNaN = true ∨ u'.isNaN = true := by
  cases u with
  | notANumber => exact iff_of_true (by cases u' <;> rfl) (.inl rfl)
  | infinity s =>
    cases u' with
    | notANumber => exact iff_of_true (by cases s <;> rfl) (.inr rfl)
    | infinity s' => simp [UnpackedFloat.compare, UnpackedFloat.isNaN]
    | _ => cases s <;> simp [UnpackedFloat.compare, UnpackedFloat.isNaN]
  | zero s =>
    cases u' with
    | notANumber => exact iff_of_true rfl (.inr rfl)
    | zero s' => simp [UnpackedFloat.compare, UnpackedFloat.isNaN]
    | infinity s' | finite s' => cases s' <;> simp [UnpackedFloat.compare, UnpackedFloat.isNaN]
  | finite s =>
    cases u' with
    | notANumber => exact iff_of_true (by cases s <;> rfl) (.inr rfl)
    | zero s' => cases s <;> simp [UnpackedFloat.compare, UnpackedFloat.isNaN]
    | infinity s' | finite s' =>
      cases s <;> cases s' <;> simp [UnpackedFloat.compare, UnpackedFloat.isNaN]

section
variable (a b : Float)

/-- How the unpacked numbers compare. -/
theorem lt_iff_compare : a < b ↔ a.toModel.unpack.compare b.toModel.unpack = some .lt := by
  show decide (UnpackedFloat.lt a.toModel.unpack b.toModel.unpack = true) = true ↔ _
  rw [decide_eq_true_iff, UnpackedFloat.lt, beq_iff_eq]

theorem beq_iff_compare :
    (a == b) = true ↔ a.toModel.unpack.compare b.toModel.unpack = some .eq := by
  show UnpackedFloat.beq a.toModel.unpack b.toModel.unpack = true ↔ _
  rw [UnpackedFloat.beq, beq_iff_eq]

theorem gt_iff_compare : b < a ↔ a.toModel.unpack.compare b.toModel.unpack = some .gt := by
  rw [lt_iff_compare, unpacked_compare_swap a.toModel.unpack, Option.map_eq_some_iff]
  constructor
  · rintro ⟨o, compared, swapped⟩
    cases o with
    | gt => exact compared
    | lt => cases swapped
    | eq => cases swapped
  · intro compared
    exact ⟨.gt, compared, rfl⟩

/-- **Three questions make up one comparison.** -/
theorem compare?_eq : compare? a b = a.toModel.unpack.compare b.toModel.unpack := by
  rw [compare?]
  simp only [lt_iff_compare, beq_iff_compare, gt_iff_compare a b]
  cases a.toModel.unpack.compare b.toModel.unpack with
  | none => rfl
  | some o => cases o <;> rfl

/-- A NaN compares with nothing, not even with itself. -/
theorem compare?_eq_none : compare? a b = none ↔ a.isNaN = true ∨ b.isNaN = true := by
  rw [compare?_eq]
  exact unpacked_compare_eq_none

end

end Arithmetic

/-- Exactly one of three statements holds. -/
def ExactlyOne (p q r : Prop) : Prop := p ∧ ¬ q ∧ ¬ r ∨ ¬ p ∧ q ∧ ¬ r ∨ ¬ p ∧ ¬ q ∧ r

/-- **Numbers compare in one way only**, unless one of them is a NaN. -/
theorem Arithmetic.number_trichotomy (a b : Float) :
    (a.isNaN = false → b.isNaN = false → ExactlyOne (a < b) ((a == b) = true) (b < a)) ∧
      (a.isNaN = true ∨ b.isNaN = true → ¬ a < b ∧ ¬ (a == b) = true ∧ ¬ b < a) := by
  have nan := compare?_eq_none a b
  rw [lt_iff_compare, beq_iff_compare, gt_iff_compare, ← compare?_eq]
  cases compared : compare? a b with
  | none =>
    refine ⟨fun here there => ?_, fun _ => ⟨nofun, nofun, nofun⟩⟩
    rcases nan.mp compared with no | no
    · cases here.symm.trans no
    · cases there.symm.trans no
  | some c =>
    refine ⟨fun _ _ => ?_, fun no => by cases compared.symm.trans (nan.mpr no)⟩
    cases c with
    | lt => exact .inl ⟨rfl, nofun, nofun⟩
    | eq => exact .inr (.inl ⟨nofun, rfl, nofun⟩)
    | gt => exact .inr (.inr ⟨nofun, nofun, rfl⟩)

/-- **Texts compare in one way only.** -/
theorem Text.text_trichotomy (s t : String) :
    ExactlyOne (Before s t) (s = t) (Before t s) := by
  rw [← compare_eq_lt, ← compare_eq_eq, ← compare_eq_gt]
  cases compare s t with
  | lt => exact .inl ⟨rfl, nofun, nofun⟩
  | eq => exact .inr (.inl ⟨nofun, rfl, nofun⟩)
  | gt => exact .inr (.inr ⟨nofun, nofun, rfl⟩)

/-! ## The six comparisons -/

/-- **The verdict of a comparison** is that a statement about its operands. -/
def Verdict (e : Engine) (op : Operator) (l r : Value) (m m' : Machine) (p : Prop) : Prop :=
  ∃ b : Bool, binaryOperation e op l r m = .ok (.boolean b) m' ∧ (b = true ↔ p)

/-- **The six comparisons are those of three relations.** -/
structure SixFold (e : Engine) (l r : Value) (m m' : Machine) (below same above : Prop) :
    Prop where
  less : Verdict e .less l r m m' below
  equal : Verdict e .equal l r m m' same
  greater : Verdict e .greater l r m m' above
  notEqual : Verdict e .notEqual l r m m' (¬ same)
  lessEqual : Verdict e .lessEqual l r m m' (below ∨ same)
  greaterEqual : Verdict e .greaterEqual l r m m' (above ∨ same)

section
variable {e : Engine} {l r : Value} {m m' : Machine} {op : Operator}

/-- Operators that all look at one comparison are those of the three relations it can tell. -/
theorem sixFold_of_holds {c : Option Ordering} (answers : ∀ op : Operator, op.isComparison = true →
      binaryOperation e op l r m = .ok (.boolean (op.holds c)) m') :
    SixFold e l r m m' (c = some .lt) (c = some .eq) (c = some .gt) where
  less := ⟨_, answers .less rfl, by rcases c with - | - | - | - <;> simp [Operator.holds]⟩
  equal := ⟨_, answers .equal rfl, by rcases c with - | - | - | - <;> simp [Operator.holds]⟩
  greater := ⟨_, answers .greater rfl, by rcases c with - | - | - | - <;> simp [Operator.holds]⟩
  notEqual := ⟨_, answers .notEqual rfl, by rcases c with - | - | - | - <;> simp [Operator.holds]⟩
  lessEqual := ⟨_, answers .lessEqual rfl, by rcases c with - | - | - | - <;> simp [Operator.holds]⟩
  greaterEqual :=
    ⟨_, answers .greaterEqual rfl, by rcases c with - | - | - | - <;> simp [Operator.holds]⟩

theorem binaryOperation_string {a b : String} (named : asString e r m = .ok b m')
    (comparison : op.isComparison = true) :
    binaryOperation e op (.string a) r m = .ok (.boolean (op.holds (some (compare a b)))) m' := by
  cases r with
  | empty => exact absurd named (raise_ne_ok _ _ _ _)
  | _ =>
    cases op with
    | equal | notEqual | less | greater | lessEqual | greaterEqual => exact Action.bind_ok named
    | _ => cases comparison

theorem binaryOperation_number {a b : Float} (named : asNumber e r m = .ok b m')
    (comparison : op.isComparison = true) :
    binaryOperation e op (.number a) r m =
      .ok (.boolean (op.holds (Arithmetic.compare? a b))) m' := by
  cases r with
  | empty => exact absurd named (raise_ne_ok _ _ _ _)
  | _ =>
    cases op with
    | equal | notEqual | less | greater | lessEqual | greaterEqual => exact Action.bind_ok named
    | _ => cases comparison

theorem sixFold_strings {a b : String} (named : asString e r m = .ok b m') :
    SixFold e (.string a) r m m' (Text.Before a b) (a = b) (Text.Before b a) := by
  have told := sixFold_of_holds fun op => binaryOperation_string (a := a) named
  rwa [Option.some_inj, Option.some_inj, Option.some_inj, Text.compare_eq_lt, Text.compare_eq_eq,
    Text.compare_eq_gt] at told

theorem sixFold_numbers {a b : Float} (named : asNumber e r m = .ok b m') :
    SixFold e (.number a) r m m' (a < b) ((a == b) = true) (b < a) := by
  have told := sixFold_of_holds fun op => binaryOperation_number (a := a) named
  rw [Arithmetic.compare?_eq] at told
  rwa [Arithmetic.lt_iff_compare, Arithmetic.beq_iff_compare, Arithmetic.gt_iff_compare]

/-! ## Equality and inequality -/

theorem holds_opposite (c : Option Ordering) :
    Operator.notEqual.holds c = !Operator.equal.holds c := by
  rcases c with - | - | - | - <;> rfl

/-- An object without attributes has no operators of its own. -/
theorem binaryOperation_bare {o : ObjectId} (bare : (m.object o).attributes = none) :
    binaryOperation e .equal (.object o) r m = .ok (.boolean ((Value.object o).same r)) m ∧
      binaryOperation e .notEqual (.object o) r m =
        .ok (.boolean (!(Value.object o).same r)) m := by
  have nothing (name : String) : m.attribute? o name = none := by
    rw [Machine.attribute?, Machine.attributeAt?, bare]
    rfl
  have look (name : String) : read (fun m => m.attribute? o name) m = .ok none m :=
    congrArg (EStateM.Result.ok · m) (nothing name)
  constructor
  · show (read _ >>= _) m = _
    rw [Action.bind_ok (look _)]
    rfl
  · show (read _ >>= _) m = _
    rw [Action.bind_ok (look _)]
    rfl

/-- **Equality and inequality ask the same thing** of two values, if the left one is not an object
with operators of its own, and answer the opposite. -/
theorem equality_asks (bare : ∀ o, l = .object o → (m.object o).attributes = none) :
    ∃ (α : Type) (ask : Action α) (test : α → Bool),
      binaryOperation e .equal l r m = (ask >>= fun a => pure (.boolean (test a))) m ∧
      binaryOperation e .notEqual l r m = (ask >>= fun a => pure (.boolean (!test a))) m := by
  -- the left operand tells what the right one is converted to
  cases l with
  | object o =>
    obtain ⟨equal, notEqual⟩ := binaryOperation_bare (e := e) (r := r) (bare o rfl)
    exact ⟨Unit, pure (), fun _ => (Value.object o).same r, equal, notEqual⟩
  | empty =>
    cases r with
    | empty => exact ⟨Unit, pure (), fun _ => true, rfl, rfl⟩
    | _ => exact ⟨Unit, pure (), fun _ => false, rfl, rfl⟩
  | type t =>
    cases r with
    | type t' => exact ⟨Unit, pure (), fun _ => t == t', rfl, rfl⟩
    | _ => exact ⟨Unit, pure (), fun _ => false, rfl, rfl⟩
  | boolean a =>
    cases r with
    | empty => exact ⟨Unit, pure (), fun _ => false, rfl, rfl⟩
    | _ => exact ⟨Bool, asBoolean e _, fun b => a == b, rfl, rfl⟩
  | string a =>
    cases r with
    | empty => exact ⟨Unit, pure (), fun _ => false, rfl, rfl⟩
    | _ =>
      refine ⟨String, asString e _, fun b => Operator.equal.holds (some (compare a b)), rfl, ?_⟩
      simp only [← holds_opposite]
      rfl
  | number a =>
    cases r with
    | empty => exact ⟨Unit, pure (), fun _ => false, rfl, rfl⟩
    | _ =>
      refine ⟨Float, asNumber e _, fun b => Operator.equal.holds (Arithmetic.compare? a b), rfl, ?_⟩
      simp only [← holds_opposite]
      rfl

/-- **Equality and inequality are opposites.** -/
theorem equality_opposite (bare : ∀ o, l = .object o → (m.object o).attributes = none) :
    (∀ op, op = .equal ∨ op = .notEqual → ∀ v m', binaryOperation e op l r m = .ok v m' →
        ∃ b, v = .boolean b) ∧
      (∀ b m', binaryOperation e .equal l r m = .ok (.boolean b) m' ↔
        binaryOperation e .notEqual l r m = .ok (.boolean !b) m') ∧
      ∀ failure m', binaryOperation e .equal l r m = .error failure m' ↔
        binaryOperation e .notEqual l r m = .error failure m' := by
  obtain ⟨α, ask, test, equal, notEqual⟩ := equality_asks (e := e) (r := r) bare
  cases asked : ask m with
  | ok a m₁ =>
    have equal : binaryOperation e .equal l r m = .ok (.boolean (test a)) m₁ :=
      equal.trans (Action.bind_ok asked)
    have notEqual : binaryOperation e .notEqual l r m = .ok (.boolean !test a) m₁ :=
      notEqual.trans (Action.bind_ok asked)
    refine ⟨?_, fun b m' => ?_, fun failure m' => ?_⟩
    · rintro op (rfl | rfl) v m' ok
      · cases equal.symm.trans ok
        exact ⟨_, rfl⟩
      · cases notEqual.symm.trans ok
        exact ⟨_, rfl⟩
    · rw [equal, notEqual]
      simp only [EStateM.Result.ok.injEq, Value.boolean.injEq, Bool.not_inj_iff]
    · rw [equal, notEqual]
      exact iff_of_false nofun nofun
  | error failure₁ m₁ =>
    have equal := equal.trans (Action.bind_error asked)
    have notEqual := notEqual.trans (Action.bind_error asked)
    refine ⟨?_, fun b m' => ?_, fun failure m' => by rw [equal, notEqual]⟩
    · rintro op (rfl | rfl) v m' ok
      · cases equal.symm.trans ok
      · cases notEqual.symm.trans ok
    · rw [equal, notEqual]
      exact iff_of_false nofun nofun

/-- What never has to be converted is compared without fail. -/
theorem equality_succeeds (bare : ∀ o, l = .object o → (m.object o).attributes = none)
    (plain : r = .empty ∨ l = .empty ∨ (∃ t, l = .type t) ∨ ∃ o, l = .object o) :
    ∃ b, binaryOperation e .equal l r m = .ok (.boolean b) m ∧
      binaryOperation e .notEqual l r m = .ok (.boolean (!b)) m := by
  cases l with
  | object o => exact ⟨_, binaryOperation_bare (bare o rfl)⟩
  | empty =>
    cases r with
    | empty => exact ⟨true, rfl, rfl⟩
    | _ => exact ⟨false, rfl, rfl⟩
  | type t =>
    cases r with
    | type t' => exact ⟨t == t', rfl, rfl⟩
    | _ => exact ⟨false, rfl, rfl⟩
  | _ =>
    rcases plain with rfl | other | ⟨t, other⟩ | ⟨o, other⟩
    · exact ⟨false, rfl, rfl⟩
    · cases other
    · cases other
    · cases other

/-- Empty on the right is equal to Empty only. -/
theorem equal_empty (bare : ∀ o, l = .object o → (m.object o).attributes = none) :
    Verdict e .equal l .empty m m (l = .empty) := by
  cases l with
  | object o => exact ⟨false, (binaryOperation_bare (bare o rfl)).1, by simp⟩
  | empty => exact ⟨true, rfl, by simp⟩
  | _ => exact ⟨false, rfl, by simp⟩

end

/-- **The comparisons are consistent.**  For a left operand that is not an object with attributes,
equality and inequality give opposite answers, or both fail in the same way.  They do not fail, and
change nothing, if the right operand is Empty or the left one is Empty, a type or an object; and an
Empty on the right is equal to Empty only.  For a string and anything that converts to one, the six
comparisons are those of the order of texts, which is strict and total and is also the order of
their bytes.  For a number and anything that converts to one, they are those of binary64, of which
exactly one holds, unless one of the numbers is a NaN: then only inequality does. -/
theorem comparisons_consistent (e : Engine) (l r : Value) (m : Machine)
    (bare : ∀ o, l = .object o → (m.object o).attributes = none) :
    ((∀ op, op = .equal ∨ op = .notEqual → ∀ v m', binaryOperation e op l r m = .ok v m' →
        ∃ b, v = .boolean b) ∧
      (∀ b m', binaryOperation e .equal l r m = .ok (.boolean b) m' ↔
        binaryOperation e .notEqual l r m = .ok (.boolean !b) m') ∧
      ∀ failure m', binaryOperation e .equal l r m = .error failure m' ↔
        binaryOperation e .notEqual l r m = .error failure m') ∧
    ((r = .empty ∨ l = .empty ∨ (∃ t, l = .type t) ∨ ∃ o, l = .object o) →
      ∃ b, binaryOperation e .equal l r m = .ok (.boolean b) m ∧
        binaryOperation e .notEqual l r m = .ok (.boolean !b) m) ∧
    (r = .empty → Verdict e .equal l r m m (l = .empty)) ∧
    (∀ a b m', l = .string a → asString e r m = .ok b m' →
      SixFold e l r m m' (Text.Before a b) (a = b) (Text.Before b a) ∧
      ExactlyOne (Text.Before a b) (a = b) (Text.Before b a)) ∧
    (IsStrictTotalOrder String Text.Before ∧ ∀ s t, Text.Before s t ↔
      List.Lex (· < ·) s.toUTF8.data.toList t.toUTF8.data.toList) ∧
    ∀ a b m', l = .number a → asNumber e r m = .ok b m' →
      SixFold e l r m m' (a < b) ((a == b) = true) (b < a) ∧
      (a.isNaN = false → b.isNaN = false → ExactlyOne (a < b) ((a == b) = true) (b < a)) ∧
      (a.isNaN = true ∨ b.isNaN = true → ¬ a < b ∧ ¬ (a == b) = true ∧ ¬ b < a) := by
  refine ⟨equality_opposite bare, equality_succeeds bare, ?empty, ?strings,
    ⟨Text.before_total, Text.before_iff_bytes⟩, ?numbers⟩
  case empty =>
    rintro rfl
    exact equal_empty bare
  case strings =>
    rintro a b m' rfl named
    exact ⟨sixFold_strings named, Text.text_trichotomy a b⟩
  case numbers =>
    rintro a b m' rfl named
    exact ⟨sixFold_numbers named, Arithmetic.number_trichotomy a b⟩

/-- A character outside the first 65536 comes after one within them, though the first half of its
surrogate pair would not. -/
theorem comparisons_consistent_astral :
    let e : Engine := ⟨0, fun _ => pure .empty⟩
    let m := Machine.initial .standard
    (∀ o, Value.string "\uff5e" = .object o → (m.object o).attributes = none) ∧
      asString e (.string "😀") m = .ok "😀" m ∧ Text.Before "\uff5e" "😀" ∧
      binaryOperation e .less (.string "\uff5e") (.string "😀") m = .ok (.boolean true) m ∧
      binaryOperation e .equal (.string "\uff5e") .empty m = .ok (.boolean false) m := by
  intro e m
  have bare : ∀ o, Value.string "\uff5e" = .object o → (m.object o).attributes = none := nofun
  have before : Text.Before "\uff5e" "😀" := .rel (by decide)
  obtain ⟨-, -, -, strings, -⟩ := comparisons_consistent e _ (.string "😀") m bare
  obtain ⟨less, ran, decides⟩ := (strings _ _ m rfl rfl).1.less
  obtain rfl := decides.mpr before
  obtain ⟨-, -, empty, -⟩ := comparisons_consistent e _ .empty m bare
  obtain ⟨equal, answered, decides⟩ := empty rfl
  cases equal with
  | false => exact ⟨bare, rfl, before, ran, answered⟩
  | true => cases decides.mp rfl

end StubMachine
