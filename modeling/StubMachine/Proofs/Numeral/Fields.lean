import Mathlib
import StubMachine.Numeral.Binary64

/-!
# The fields of a number

A number consists of a sign, an exponent field and a fraction field.  **It is put together
from them** (`Binary64.assemble_fields`), and they are read off again
(`Binary64.fields_assemble`).
-/

namespace StubMachine.Binary64

/-! ## The fields of a number -/

theorem exponentField_eq (x : Float) : exponentField x = x.toBits.toNat / 2 ^ 52 % 2 ^ 11 := by
  have mask : (0x7ff : UInt64).toNat = 2 ^ 11 - 1 := rfl
  rw [exponentField, UInt64.toNat_and, mask, Nat.and_two_pow_sub_one_eq_mod,
    UInt64.toNat_shiftRight]
  simp [Nat.shiftRight_eq_div_pow]

theorem fractionField_eq (x : Float) : fractionField x = x.toBits.toNat % 2 ^ 52 := by
  have mask : (0xfffffffffffff : UInt64).toNat = 2 ^ 52 - 1 := rfl
  rw [fractionField, UInt64.toNat_and, mask, Nat.and_two_pow_sub_one_eq_mod]

theorem isNegative_iff (x : Float) : isNegative x = true ↔ 2 ^ 63 ≤ x.toBits.toNat := by
  have lt := x.toBits.toNat_lt
  rw [isNegative, beq_iff_eq, ← UInt64.toNat_inj, UInt64.toNat_shiftRight]
  simp [Nat.shiftRight_eq_div_pow]
  omega

theorem fractionField_lt (x : Float) : fractionField x < 2 ^ 52 := by
  rw [fractionField_eq]
  omega

/-- **A number is put together from its sign and its fields.** -/
theorem assemble_fields (x : Float) :
    assemble (isNegative x) (exponentField x) (fractionField x) = x := by
  have lt := x.toBits.toNat_lt
  have sign : (if isNegative x then Nat.pow 2 63 else 0) = x.toBits.toNat / 2 ^ 63 * 2 ^ 63 := by
    have negative := isNegative_iff x
    by_cases set : isNegative x = true
    · rw [if_pos set]
      have := negative.mp set
      show 2 ^ 63 = _
      omega
    · rw [if_neg set]
      have : ¬ 2 ^ 63 ≤ x.toBits.toNat := fun le => set (negative.mpr le)
      omega
  have whole : x.toBits.toNat / 2 ^ 63 * 2 ^ 63 + exponentField x * Nat.pow 2 52 + fractionField x =
      x.toBits.toNat := by
    rw [exponentField_eq, fractionField_eq]
    show _ + _ * 2 ^ 52 + _ = _
    omega
  rw [assemble, sign, whole, UInt64.ofNat_toNat, Float.ofBits_toBits]

open Float.Model UnpackedFloat in
theorem unpackExponent_toNat (bits : UInt64) :
    (@unpackExponent Format.binary64 bits.toBitVec).toNat = bits.toNat / 2 ^ 52 % 2 ^ 11 := by
  simp [unpackExponent, BitVec.extractLsb, Nat.shiftRight_eq_div_pow]

open Float.Model UnpackedFloat in
theorem unpackMantissa_toNat (bits : UInt64) :
    (@unpackMantissa Format.binary64 bits.toBitVec).toNat = bits.toNat % 2 ^ 52 := by
  simp [unpackMantissa, BitVec.extractLsb]

open Float.Model UnpackedFloat in
theorem unpackSign_toNat (bits : UInt64) :
    (@unpackSign Format.binary64 bits.toBitVec).toNat = bits.toNat / 2 ^ 63 := by
  have lt := bits.toNat_lt
  simp [unpackSign, BitVec.extractLsb, Nat.shiftRight_eq_div_pow]
  omega

open Float.Model UnpackedFloat in
/-- The bits of a finite number are kept. -/
theorem toBits_ofBits_of_exponent {bits : UInt64} (finite : bits.toNat / 2 ^ 52 % 2 ^ 11 ≠ 2047) :
    (Float.ofBits bits).toBits = bits := by
  have packed : (Float.ofBits bits).toBits.toBitVec
      = if @isNaNBits Format.binary64 bits.toBitVec then packedNaN Format.binary64
        else bits.toBitVec :=
    @pack_unpack Format.binary64 bits.toBitVec (by decide)
  have number : ¬ @isNaNBits Format.binary64 bits.toBitVec = true := by
    intro nan
    have ones := (of_decide_eq_true nan).1
    rw [← unpackExponent_toNat, ones] at finite
    exact finite rfl
  rw [if_neg number] at packed
  exact UInt64.toBitVec_inj.mp packed

/-- The bits of a finite number that is put together. -/
theorem toBits_assemble (negative : Bool) {e f : Nat} (he : e < 2047) (hf : f < 2 ^ 52) :
    (assemble negative e f).toBits.toNat = (if negative then 2 ^ 63 else 0) + e * 2 ^ 52 + f := by
  have sign : (if negative then Nat.pow 2 63 else 0) = if negative then 2 ^ 63 else 0 := rfl
  have lt : (if negative then 2 ^ 63 else 0) + e * 2 ^ 52 + f < 2 ^ 64 := by
    split <;> omega
  have value := UInt64.toNat_ofNat_of_lt' lt
  rw [assemble, sign, Nat.pow_eq, toBits_ofBits_of_exponent, value]
  rw [value]
  split <;> omega

/-- **The fields of a number that is put together** are those that it is put together from. -/
theorem fields_assemble (negative : Bool) {e f : Nat} (he : e < 2047) (hf : f < 2 ^ 52) :
    isNegative (assemble negative e f) = negative ∧ exponentField (assemble negative e f) = e ∧
      fractionField (assemble negative e f) = f := by
  have bits := toBits_assemble negative he hf
  refine ⟨?_, ?_, ?_⟩
  · have set := isNegative_iff (assemble negative e f)
    rw [bits] at set
    cases negative with
    | true => exact set.mpr (by simp; omega)
    | false =>
      refine Bool.eq_false_iff.mpr fun on => ?_
      have := set.mp on
      simp at this
      omega
  · rw [exponentField_eq, bits]
    split <;> omega
  · rw [fractionField_eq, bits]
    split <;> omega

open Float.Model UnpackedFloat in
/-- The sign of the unpacked form of a number. -/
theorem ofBitVec_unpackSign (x : Float) :
    Sign.ofBitVec (@unpackSign Format.binary64 x.toBits.toBitVec) =
      if isNegative x then .negative else .positive := by
  have bit := unpackSign_toNat x.toBits
  have lt := x.toBits.toNat_lt
  have negative := isNegative_iff x
  rw [Sign.ofBitVec]
  by_cases zero : @unpackSign Format.binary64 x.toBits.toBitVec = 0#1
  · rw [zero] at bit
    have none : (0#1).toNat = 0 := rfl
    rw [if_pos zero, if_neg fun set => ?_]
    have := negative.mp set
    omega
  · have one : (@unpackSign Format.binary64 x.toBits.toBitVec).toNat ≠ 0 :=
      fun none => zero (BitVec.eq_of_toNat_eq none)
    rw [if_neg zero, if_pos (negative.mpr (by omega))]

/-- A fraction with the leading bit in front. -/
theorem toNat_leading (fraction : BitVec 52) :
    (1#1 ++ fraction).toNat = fraction.toNat + 2 ^ 52 := by
  have one : (1#1).toNat = 1 := rfl
  rw [BitVec.toNat_append, ← Nat.shiftLeft_add_eq_or_of_lt (BitVec.isLt _), Nat.shiftLeft_eq, one]
  omega

open Float.Model UnpackedFloat in
/-- **The unpacked form of a number** whose exponent field is neither the least nor the greatest. -/
theorem unpack_of_fields {x : Float} (normal : exponentField x ≠ 0) (finite : exponentField x ≠ 2047)
    {m : Nat} (pos : 0 < m) (whole : m = fractionField x + 2 ^ 52) :
    x.toModel.unpack =
      .finite (if isNegative x then .negative else .positive) m ((exponentField x : Int) - 1075)
        pos := by
  have exponent : (@unpackExponent Format.binary64 x.toBits.toBitVec).toNat = exponentField x := by
    rw [unpackExponent_toNat, exponentField_eq]
  have fraction : (@unpackMantissa Format.binary64 x.toBits.toBitVec).toNat = fractionField x := by
    rw [unpackMantissa_toNat, fractionField_eq]
  have all : (-1#11).toNat = 2047 := rfl
  have none : (0#11).toNat = 0 := rfl
  have inner : @unpackExponent Format.binary64 x.toBits.toBitVec ≠ -1#11 := by
    intro eq
    rw [eq] at exponent
    omega
  have upper : @unpackExponent Format.binary64 x.toBits.toBitVec ≠ 0#11 := by
    intro eq
    rw [eq] at exponent
    omega
  have digits : (1#1 ++ @unpackMantissa Format.binary64 x.toBits.toBitVec).toNat = m := by
    rw [whole, ← fraction]
    exact toNat_leading _
  show UnpackedFloat.unpack Format.binary64 x.toBits.toBitVec = _
  rw [UnpackedFloat.unpack]
  simp only [ofBitVec_unpackSign, exponent]
  rw [if_neg inner, if_neg upper]
  simp only [digits]
  rfl

open Float.Model UnpackedFloat in
/-- A finite number is equal to itself. -/
theorem beq_self_of_isFinite {x : Float} (finite : isFinite x = true) : (x == x) = true := by
  have exponent : exponentField x ≠ 2047 := by simpa [isFinite] using finite
  rw [exponentField_eq, ← unpackExponent_toNat] at exponent
  -- only a NaN differs from itself, and the exponent of a NaN is not that of a finite number
  have number : UnpackedFloat.unpack Format.binary64 x.toBits.toBitVec ≠ .notANumber := by
    have ones : @unpackExponent Format.binary64 x.toBits.toBitVec ≠ -1#_ := by
      intro ones
      rw [ones] at exponent
      exact exponent rfl
    rw [UnpackedFloat.unpack]
    simp only [if_neg ones]
    split
    · split <;> simp
    · simp
  show (UnpackedFloat.compare _ _ == some .eq) = true
  have looked : x.toModel.unpack = UnpackedFloat.unpack Format.binary64 x.toBits.toBitVec := rfl
  rw [looked]
  generalize UnpackedFloat.unpack Format.binary64 x.toBits.toBitVec = y at number
  cases y with
  | infinity s => cases s <;> rfl
  | notANumber => exact absurd rfl number
  | zero s => cases s <;> rfl
  | finite s m e pos => cases s <;> simp [UnpackedFloat.compare]

end StubMachine.Binary64
