import Mathlib.Data.Int.Bitwise

/-!
# Words as integers

A word of `w` bits stands for an integer in two's complement.  An integer has bits of its own,
infinitely many of them: those of a negative one are all set from some place on.  **The bits of the
integer that a word stands for are the word's, and above them its sign** (`Word.testBit_toInt`).

So whatever is done to words bit by bit is done to the integers that they stand for
(`Word.toInt_bitwise`), and nothing is lost at the end of the word.
-/

namespace StubMachine.Word

variable {w : Nat}

/-- A negative word stands for the negative of its complement, less one. -/
theorem toInt_of_msb {x : BitVec w} (negative : x.msb = true) :
    x.toInt = Int.negSucc (~~~x).toNat := by
  have lt := x.isLt
  rw [BitVec.toInt_eq_msb_cond, if_pos negative, BitVec.toNat_not, Int.negSucc_eq]
  omega

/-- **The bits of a word, and its sign above them.** -/
theorem testBit_toInt (x : BitVec w) (i : Nat) :
    x.toInt.testBit i = if i < w then x.getLsbD i else x.msb := by
  cases sign : x.msb with
  | false =>
    rw [BitVec.toInt_eq_toNat_of_msb sign]
    show x.getLsbD i = _
    split
    next => rfl
    next outside => exact BitVec.getLsbD_of_ge x i (Nat.le_of_not_lt outside)
  | true =>
    rw [toInt_of_msb sign]
    show (!(~~~x).getLsbD i) = _
    rw [BitVec.getLsbD_not]
    split
    next inside => simp [inside]
    next outside => simp [outside]

/-- **Integers with the same bits are equal.** -/
theorem eq_of_testBit_eq {a b : Int} (bits : ∀ i, a.testBit i = b.testBit i) : a = b := by
  -- beyond the digits of both magnitudes only the signs are left
  have differ (m n : Nat) : ¬ ∀ i, m.testBit i = !n.testBit i := by
    intro opposite
    have far (k : Nat) (le : k ≤ max m n) : k.testBit (max m n) = false :=
      Nat.testBit_lt_two_pow (Nat.lt_of_le_of_lt le Nat.lt_two_pow_self)
    have last := opposite (max m n)
    rw [far m (Nat.le_max_left m n), far n (Nat.le_max_right m n)] at last
    cases last
  cases a with
  | ofNat m =>
    cases b with
    | ofNat n => exact congrArg Int.ofNat (Nat.eq_of_testBit_eq bits)
    | negSucc n => exact absurd bits (differ m n)
  | negSucc m =>
    cases b with
    | ofNat n => exact absurd (fun i => (bits i).symm) (differ n m)
    | negSucc n => exact congrArg Int.negSucc (Nat.eq_of_testBit_eq fun i => Bool.not_inj (bits i))

/-! ## Words that are combined bit by bit -/

/-- **What is done to words bit by bit is done to the integers that they stand for.** -/
theorem toInt_bitwise {f : Bool → Bool → Bool} {x y z : BitVec w}
    (bits : ∀ i, z.getLsbD i = f (x.getLsbD i) (y.getLsbD i)) (sign : z.msb = f x.msb y.msb) :
    z.toInt = Int.bitwise f x.toInt y.toInt := by
  refine eq_of_testBit_eq fun i => ?_
  rw [Int.testBit_bitwise, testBit_toInt, testBit_toInt, testBit_toInt]
  split
  · exact bits i
  · exact sign

theorem toInt_and (x y : BitVec w) : (x &&& y).toInt = x.toInt.land y.toInt := by
  rw [← Int.bitwise_and]
  exact toInt_bitwise (fun _ => BitVec.getLsbD_and) BitVec.msb_and

theorem toInt_or (x y : BitVec w) : (x ||| y).toInt = x.toInt.lor y.toInt := by
  rw [← Int.bitwise_or]
  exact toInt_bitwise (fun _ => BitVec.getLsbD_or) BitVec.msb_or

theorem toInt_xor (x y : BitVec w) : (x ^^^ y).toInt = x.toInt.xor y.toInt := by
  rw [← Int.bitwise_xor]
  exact toInt_bitwise (fun _ => BitVec.getLsbD_xor) BitVec.msb_xor

theorem toInt_not (x : BitVec w) (wide : 0 < w) : (~~~x).toInt = x.toInt.lnot := by
  refine eq_of_testBit_eq fun i => ?_
  rw [Int.testBit_lnot, testBit_toInt, testBit_toInt, BitVec.msb_not]
  split
  next inside => simp [inside]
  next => simp [wide]

/-! ## Laws of the bits of integers -/

theorem xor_xor_cancel (a b : Int) : (a.xor b).xor b = a := by
  refine eq_of_testBit_eq fun i => ?_
  rw [Int.testBit_lxor, Int.testBit_lxor, Bool.xor_assoc, Bool.xor_self, Bool.xor_false]

theorem lnot_lnot (a : Int) : a.lnot.lnot = a := by
  refine eq_of_testBit_eq fun i => ?_
  rw [Int.testBit_lnot, Int.testBit_lnot, Bool.not_not]

theorem lnot_lor_lnot (a b : Int) : (a.lnot.lor b.lnot).lnot = a.land b := by
  refine eq_of_testBit_eq fun i => ?_
  rw [Int.testBit_lnot, Int.testBit_lor, Int.testBit_lnot, Int.testBit_lnot, Int.testBit_land,
    ← Bool.not_and, Bool.not_not]

end StubMachine.Word
