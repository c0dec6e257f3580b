import Mathlib
import StubMachine.Proofs.Calling
import StubMachine.Proofs.Numeral.Integer
import StubMachine.Proofs.Numeral.Whole
import StubMachine.Proofs.Numeral.Word

/-!
# Bitwise operators on safe integers

The bitwise operators take their numbers to words of 64 bits, with whatever loss that brings, and
the word they come to back to a number, which is rounded.  **On safe integers neither step loses
anything** (`bitwise_exact`): a safe integer is a word of 54 bits, so is what words of 54 bits are
combined to, and every such word is a number.

The results are those of integers without bounds, in two's complement, and therefore obey their
laws.
-/

namespace StubMachine

open StubMachine.Action

/-! ## Safe integers -/

/-- **A safe integer**: `-2 ^ 53` is the least of them and `2 ^ 53 - 1` the greatest. -/
def SafeInteger (n : Int) : Prop := -2 ^ 53 ≤ n ∧ n < 2 ^ 53

namespace SafeInteger
variable {n : Int}

theorem natAbs_le (h : SafeInteger n) : n.natAbs ≤ 2 ^ 53 := by
  obtain ⟨low, high⟩ := h
  omega

/-- **The safe integers are the words of 54 bits.** -/
theorem iff_word : SafeInteger n ↔ ∃ v : BitVec 54, v.toInt = n := by
  constructor
  · rintro ⟨low, high⟩
    exact ⟨.ofInt 54 n, BitVec.toInt_ofInt_eq_self (by decide) low high⟩
  · rintro ⟨v, rfl⟩
    exact ⟨v.le_toInt, v.toInt_lt⟩

end SafeInteger

/-- **A small integer is finite, and its whole part is itself.** -/
theorem Binary64.IsInteger.truncate_eq {x : Float} {n : Int} (h : IsInteger x n)
    (small : n.natAbs ≤ 2 ^ 53) : isFinite x = true ∧ truncate x = n := by
  have written : isFinite (Binary64.ofInteger n) = true ∧ truncate (Binary64.ofInteger n) = n := by
    by_cases below : n.natAbs < 2 ^ 53
    · exact ⟨(finite_ofInteger below).1, truncate_ofInteger below⟩
    · obtain rfl | rfl : n = 2 ^ 53 ∨ n = -2 ^ 53 := by omega
      · exact ⟨rfl, rfl⟩
      · exact ⟨rfl, rfl⟩
  have equal : (Binary64.ofInteger n == x) = true := ((ofInteger small).beq_iff h).mpr rfl
  -- numbers that are equal are the same, but for the two zeros
  obtain ⟨-, -, same | ⟨zero, zero'⟩ | ⟨zero, zero'⟩⟩ := Float.beq_iff_ne_nan_and_eq.mp equal
  · rwa [← same]
  all_goals
    rw [zero] at written
    obtain ⟨-, rfl⟩ := written
    rw [zero']
    exact ⟨rfl, rfl⟩

namespace Arithmetic
open Binary64 (IsInteger)

variable {x : Float} {n : Int}

/-- **A safe integer is taken to the word that stands for it.** -/
theorem toInt_bits (h : IsInteger x n) (safe : SafeInteger n) : (bits x).toInt = n := by
  obtain ⟨finite, whole⟩ := h.truncate_eq safe.natAbs_le
  obtain ⟨low, high⟩ := safe
  have number : Binary64.isNaN x = false := by
    rw [Binary64.isFinite, bne_iff_ne] at finite
    rw [Binary64.isNaN, beq_false_of_ne finite, Bool.false_and]
  have clamped : Binary64.toSigned 64 x = n := by
    rw [Binary64.toSigned, Binary64.clampTo, number, finite, whole]
    show max (-2 ^ 63) (min (2 ^ 63 - 1) n) = n
    omega
  rw [bits, clamped]
  exact BitVec.toInt_ofInt_eq_self (by decide) (by omega) (by omega)

theorem shiftDistance_eq (h : IsInteger x n) (low : 0 ≤ n) (high : n < 64) :
    shiftDistance x = n.toNat := by
  have value : (bits x).toInt = n := toInt_bits h ⟨by omega, by omega⟩
  have lt := (bits x).isLt
  rw [BitVec.toInt_eq_toNat_cond] at value
  rw [shiftDistance]
  split at value
  next => omega
  next => omega

end Arithmetic

/-! ## The operators -/

open Binary64 (IsInteger ofInteger)

/-- **The operation answers with a safe integer**: with the number that is this integer and no
other.  It leaves the machine as it is. -/
structure AnswersExactly (operation : Action Value) (m : Machine) (n : Int) : Prop where
  safe : SafeInteger n
  unrounded : IsInteger (ofInteger n) n
  answers : operation m = .ok (.number (ofInteger n)) m

section
variable {e : Engine} {m : Machine} {x y : Float} {a b n : Int} {operation : Action Value}

/-- What an operation comes to is exact if two words stand for it, the one that it computes and one
of 54 bits. -/
theorem AnswersExactly.of_words {w : BitVec 64} {v : BitVec 54}
    (answers : operation m = .ok (.number (Arithmetic.ofBits w)) m) (value : w.toInt = n)
    (narrow : v.toInt = n) : AnswersExactly operation m n := by
  have safe : SafeInteger n := SafeInteger.iff_word.mpr ⟨v, narrow⟩
  refine ⟨safe, .ofInteger safe.natAbs_le, ?_⟩
  rw [answers, Arithmetic.ofBits, value]

/-- What comes after such an operation goes on with the number. -/
theorem AnswersExactly.bind (h : AnswersExactly operation m n) (next : Value → Action Value) :
    (operation >>= next) m = next (.number (ofInteger n)) m :=
  Action.bind_ok h.answers

/-- **An operator that combines words as integers are combined is exact.** -/
theorem AnswersExactly.combined {op : Operator} {onIntegers : Int → Int → Int}
    {onWords : (w : Nat) → BitVec w → BitVec w → BitVec w}
    (agree : ∀ w v v', (onWords w v v').toInt = onIntegers v.toInt v'.toInt)
    (answers : binaryOperation e op (.number x) (.number y) m =
      .ok (.number (Arithmetic.ofBits (onWords 64 (Arithmetic.bits x) (Arithmetic.bits y)))) m)
    (hx : IsInteger x a) (hy : IsInteger y b) (safe : SafeInteger a) (safe' : SafeInteger b) :
    AnswersExactly (binaryOperation e op (.number x) (.number y)) m (onIntegers a b) := by
  obtain ⟨v, short⟩ := SafeInteger.iff_word.mp safe
  obtain ⟨v', short'⟩ := SafeInteger.iff_word.mp safe'
  refine .of_words (v := onWords 54 v v') answers ?_ ?_
  · rw [agree, Arithmetic.toInt_bits hx safe, Arithmetic.toInt_bits hy safe']
  · rw [agree, short, short']

theorem bitAnd_exact (hx : IsInteger x a) (hy : IsInteger y b) (safe : SafeInteger a)
    (safe' : SafeInteger b) :
    AnswersExactly (binaryOperation e .bitAnd (.number x) (.number y)) m (a.land b) :=
  .combined (fun _ => Word.toInt_and) rfl hx hy safe safe'

theorem bitOr_exact (hx : IsInteger x a) (hy : IsInteger y b) (safe : SafeInteger a)
    (safe' : SafeInteger b) :
    AnswersExactly (binaryOperation e .bitOr (.number x) (.number y)) m (a.lor b) :=
  .combined (fun _ => Word.toInt_or) rfl hx hy safe safe'

theorem bitXor_exact (hx : IsInteger x a) (hy : IsInteger y b) (safe : SafeInteger a)
    (safe' : SafeInteger b) :
    AnswersExactly (binaryOperation e .bitXor (.number x) (.number y)) m (a.xor b) :=
  .combined (fun _ => Word.toInt_xor) rfl hx hy safe safe'

theorem bitNot_exact (hx : IsInteger x a) (safe : SafeInteger a) :
    AnswersExactly (unaryOperation e .bitNot (.number x)) m a.lnot := by
  obtain ⟨v, short⟩ := SafeInteger.iff_word.mp safe
  refine .of_words (w := ~~~Arithmetic.bits x) (v := ~~~v) rfl ?_ ?_
  · rw [Word.toInt_not _ (by decide), Arithmetic.toInt_bits hx safe]
  · rw [Word.toInt_not _ (by decide), short]

/-- **Shifting to the right divides and rounds down.** -/
theorem shiftRight_exact (hx : IsInteger x a) (hy : IsInteger y b) (safe : SafeInteger a)
    (low : 0 ≤ b) (high : b < 64) :
    AnswersExactly (binaryOperation e .shiftRight (.number x) (.number y)) m
      ⌊(a : ℚ) / 2 ^ b.toNat⌋ := by
  have divided : ⌊(a : ℚ) / 2 ^ b.toNat⌋ = a >>> b.toNat := by
    rw [Int.shiftRight_eq_div_pow, ← Rat.floor_intCast_div_natCast]
    push_cast
    rfl
  obtain ⟨v, short⟩ := SafeInteger.iff_word.mp safe
  rw [divided]
  refine .of_words (w := (Arithmetic.bits x).sshiftRight (Arithmetic.shiftDistance y))
    (v := v.sshiftRight b.toNat) rfl ?_ ?_
  · rw [BitVec.toInt_sshiftRight, Arithmetic.toInt_bits hx safe,
      Arithmetic.shiftDistance_eq hy low high]
  · rw [BitVec.toInt_sshiftRight, short]

/-! ## Laws -/

/-- An integer is one value, though zero is two numbers. -/
theorem Value.same_ofInteger (hx : IsInteger x a) (safe : SafeInteger a) :
    (Value.number (ofInteger a)).same (.number x) = true :=
  ((IsInteger.ofInteger safe.natAbs_le).beq_iff hx).mpr rfl

theorem bitXor_bitXor (hx : IsInteger x a) (hy : IsInteger y b) (safe : SafeInteger a)
    (safe' : SafeInteger b) :
    AnswersExactly (binaryOperation e .bitXor (.number x) (.number y) >>=
      fun v => binaryOperation e .bitXor v (.number y)) m a := by
  have once : AnswersExactly (binaryOperation e .bitXor (.number x) (.number y)) m (a.xor b) :=
    bitXor_exact hx hy safe safe'
  have twice : AnswersExactly (binaryOperation e .bitXor (.number (ofInteger (a.xor b))) (.number y))
      m ((a.xor b).xor b) := bitXor_exact once.unrounded hy once.safe safe'
  rw [Word.xor_xor_cancel] at twice
  exact { twice with answers := (once.bind _).trans twice.answers }

theorem bitNot_bitNot (hx : IsInteger x a) (safe : SafeInteger a) :
    AnswersExactly (unaryOperation e .bitNot (.number x) >>= unaryOperation e .bitNot) m a := by
  have once : AnswersExactly (unaryOperation e .bitNot (.number x)) m a.lnot :=
    bitNot_exact hx safe
  have twice : AnswersExactly (unaryOperation e .bitNot (.number (ofInteger a.lnot))) m
      a.lnot.lnot := bitNot_exact once.unrounded once.safe
  rw [Word.lnot_lnot] at twice
  exact { twice with answers := (once.bind _).trans twice.answers }

theorem bitNot_bitOr_bitNot (hx : IsInteger x a) (hy : IsInteger y b) (safe : SafeInteger a)
    (safe' : SafeInteger b) :
    AnswersExactly (do
      let notX ← unaryOperation e .bitNot (.number x)
      let notY ← unaryOperation e .bitNot (.number y)
      unaryOperation e .bitNot (← binaryOperation e .bitOr notX notY)) m (a.land b) := by
  have first : AnswersExactly (unaryOperation e .bitNot (.number x)) m a.lnot :=
    bitNot_exact hx safe
  have second : AnswersExactly (unaryOperation e .bitNot (.number y)) m b.lnot :=
    bitNot_exact hy safe'
  have either : AnswersExactly (binaryOperation e .bitOr (.number (ofInteger a.lnot))
      (.number (ofInteger b.lnot))) m (a.lnot.lor b.lnot) :=
    bitOr_exact first.unrounded second.unrounded first.safe second.safe
  have last : AnswersExactly (unaryOperation e .bitNot (.number (ofInteger (a.lnot.lor b.lnot)))) m
      (a.lnot.lor b.lnot).lnot := bitNot_exact either.unrounded either.safe
  rw [Word.lnot_lor_lnot] at last
  refine { last with answers := ?_ }
  rw [first.bind, second.bind, either.bind, last.answers]

end

/-- **The bitwise operators are exact on safe integers.**  They answer with what the integers come
to in two's complement without bounds, which is a safe integer again and is not rounded; and a
shift to the right by less than 64 with the quotient by the power of two, rounded down.  Hence two
exclusive ors with one number and two complements give the number back, and a conjunction is what
De Morgan says. -/
theorem bitwise_exact (e : Engine) (m : Machine) {x y : Float} {a b : Int} (hx : IsInteger x a)
    (hy : IsInteger y b) (safe : SafeInteger a) (safe' : SafeInteger b) :
    AnswersExactly (binaryOperation e .bitAnd (.number x) (.number y)) m (a.land b) ∧
    AnswersExactly (binaryOperation e .bitOr (.number x) (.number y)) m (a.lor b) ∧
    AnswersExactly (binaryOperation e .bitXor (.number x) (.number y)) m (a.xor b) ∧
    AnswersExactly (unaryOperation e .bitNot (.number x)) m a.lnot ∧
    (0 ≤ b → b < 64 → AnswersExactly (binaryOperation e .shiftRight (.number x) (.number y)) m
      ⌊(a : ℚ) / 2 ^ b.toNat⌋) ∧
    (∃ v, (binaryOperation e .bitXor (.number x) (.number y) >>=
        fun v => binaryOperation e .bitXor v (.number y)) m = .ok v m ∧
      v.same (.number x) = true) ∧
    (∃ v, (unaryOperation e .bitNot (.number x) >>= unaryOperation e .bitNot) m = .ok v m ∧
      v.same (.number x) = true) ∧
    ∃ v, binaryOperation e .bitAnd (.number x) (.number y) m = .ok v m ∧
      (do
        let notX ← unaryOperation e .bitNot (.number x)
        let notY ← unaryOperation e .bitNot (.number y)
        unaryOperation e .bitNot (← binaryOperation e .bitOr notX notY)) m = .ok v m := by
  have both : AnswersExactly (binaryOperation e .bitAnd (.number x) (.number y)) m (a.land b) :=
    bitAnd_exact hx hy safe safe'
  refine ⟨both, bitOr_exact hx hy safe safe', bitXor_exact hx hy safe safe', bitNot_exact hx safe,
    shiftRight_exact hx hy safe, ?xor, ?not, ?morgan⟩
  case xor => exact ⟨_, (bitXor_bitXor hx hy safe safe').answers, Value.same_ofInteger hx safe⟩
  case not => exact ⟨_, (bitNot_bitNot hx safe).answers, Value.same_ofInteger hx safe⟩
  case morgan => exact ⟨_, both.answers, (bitNot_bitOr_bitNot hx hy safe safe').answers⟩

/-- The least safe integer, and a shift that takes it to its sign. -/
theorem bitwise_exact_least :
    let e : Engine := ⟨0, fun _ => pure .empty⟩
    let m := Machine.initial .standard
    let least := Value.number (ofInteger (-9007199254740992))
    let distance := Value.number (ofInteger 62)
    SafeInteger (-9007199254740992) ∧ SafeInteger 62 ∧
      binaryOperation e .bitXor least distance m =
        .ok (.number (ofInteger (-9007199254740930))) m ∧
      unaryOperation e .bitNot least m = .ok (.number (ofInteger 9007199254740991)) m ∧
      binaryOperation e .shiftRight least distance m = .ok (.number (ofInteger (-1))) m := by
  intro e m least distance
  have safe : SafeInteger (-9007199254740992) := ⟨by decide, by decide⟩
  have safe' : SafeInteger 62 := ⟨by decide, by decide⟩
  obtain ⟨-, -, xor, not, shift, -⟩ := bitwise_exact e m (.ofInteger safe.natAbs_le)
    (.ofInteger safe'.natAbs_le) safe safe'
  have sign : ⌊((-9007199254740992 : Int) : ℚ) / 2 ^ (62 : Int).toNat⌋ = -1 := by
    have power : (62 : Int).toNat = 62 := rfl
    rw [power, Int.floor_eq_iff]
    norm_num
  have shifted := shift (by decide) (by decide)
  rw [sign] at shifted
  exact ⟨safe, safe', xor.answers, not.answers, shifted.answers⟩

end StubMachine
