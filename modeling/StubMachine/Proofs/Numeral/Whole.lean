import StubMachine.Proofs.Numeral.Fields

/-!
# Integers below `2 ^ 53`

**A small integer is the number of its value, and the value is the whole part of the number**
(`ofInteger_truncate`, `truncate_ofInteger`).  The proofs take numbers apart into sign, exponent
and fraction, and put them together again (`assemble_fields`).
-/

namespace StubMachine.Binary64

theorem eq_zero_of_mod_two_pow {a j k : Nat} (divides : a % 2 ^ k = 0) (lt : a < 2 ^ j)
    (le : j ≤ k) : a = 0 := by
  rw [Nat.mod_eq_of_lt (Nat.lt_of_lt_of_le lt (Nat.pow_le_pow_right (by omega) le))] at divides
  exact divides

/-- Shifting to the left makes a mantissa too large for a small integer. -/
theorem eq_zero_of_shifted {a q : Nat} (large : 2 ^ 52 ≤ a) (small : a * 2 ^ q < 2 ^ 53) : q = 0 := by
  by_contra shifted
  have twice : 2 ^ 1 ≤ 2 ^ q := Nat.pow_le_pow_right (by omega) (by omega)
  have big : 2 ^ 52 * 2 ^ 1 ≤ a * 2 ^ q := Nat.mul_le_mul large twice
  omega

/-- Of the numbers without a leading bit only zero is an integer. -/
theorem exponentField_ne_zero {x : Float} (integral : isIntegral x = true)
    (nonzero : mantissa x ≠ 0) : exponentField x ≠ 0 := by
  intro subnormal
  have exponent : exponent x = -1074 := by rw [Binary64.exponent, if_pos subnormal]
  have mantissa_eq : mantissa x = fractionField x := by rw [mantissa, if_pos subnormal]
  simp only [isIntegral, Bool.and_eq_true, Bool.or_eq_true, decide_eq_true_eq, beq_iff_eq]
    at integral
  obtain ⟨-, parts⟩ := integral
  rw [exponent, mantissa_eq] at parts
  rw [mantissa_eq] at nonzero
  -- no power of two that large divides a fraction
  have divides := parts.resolve_left (by omega)
  have wide : 52 ≤ (-(-1074 : Int)).toNat := by decide
  generalize (-(-1074 : Int)).toNat = k at divides wide
  exact nonzero (eq_zero_of_mod_two_pow divides (fractionField_lt x) wide)

/-- A number other than zero that is a small integer has a mantissa that is the integer, scaled by
a power of two that the exponent makes up for. -/
theorem scaled_of_isIntegral {x : Float} (integral : isIntegral x = true)
    (small : wholePart x < 2 ^ 53) (nonzero : mantissa x ≠ 0) :
    ∃ s ≤ 52, mantissa x = wholePart x * 2 ^ s ∧ exponentField x = 1075 - s ∧
      mantissa x = fractionField x + 2 ^ 52 := by
  have fraction := fractionField_lt x
  have subnormal := exponentField_ne_zero integral nonzero
  simp only [isIntegral, Bool.and_eq_true, Bool.or_eq_true, decide_eq_true_eq, beq_iff_eq]
    at integral
  obtain ⟨-, parts⟩ := integral
  have mantissa_eq : mantissa x = fractionField x + 2 ^ 52 := by rw [mantissa, if_neg subnormal]; rfl
  have exponent_eq : exponent x = (exponentField x : Int) - 1075 := by
    rw [Binary64.exponent, if_neg subnormal]
  rw [wholePart] at small ⊢
  simp only [exponent_eq] at parts small ⊢
  by_cases left : (0 : Int) ≤ (exponentField x : Int) - 1075
  · simp only [if_pos left, Nat.shiftLeft_eq] at small ⊢
    obtain ⟨q, scale⟩ := Int.eq_ofNat_of_zero_le left
    rw [scale, Int.toNat_natCast] at small ⊢
    obtain rfl : q = 0 := eq_zero_of_shifted (by omega) small
    exact ⟨0, by omega, by simp, by omega, mantissa_eq⟩
  · simp only [if_neg left, Nat.shiftRight_eq_div_pow] at small ⊢
    obtain ⟨s, scale⟩ := Int.eq_ofNat_of_zero_le (a := -((exponentField x : Int) - 1075)) (by omega)
    rw [scale, Int.toNat_natCast] at small ⊢
    have divides : mantissa x % 2 ^ s = 0 := by
      have := parts.resolve_left left
      rw [scale, Int.toNat_natCast] at this
      exact this
    have whole : mantissa x = mantissa x / 2 ^ s * 2 ^ s := by
      rw [Nat.div_mul_cancel (Nat.dvd_of_mod_eq_zero divides)]
    refine ⟨s, ?_, whole, by omega, mantissa_eq⟩
    by_contra far
    exact nonzero (eq_zero_of_mod_two_pow (j := 53) divides (by omega) (by omega))

/-- **A small integer is what its value is written as.** -/
theorem ofParts_wholePart {x : Float} (integral : isIntegral x = true) (small : wholePart x < 2 ^ 53)
    (nonzero : mantissa x ≠ 0) : ofParts (isNegative x) (wholePart x) 0 = x := by
  obtain ⟨s, le, scaled, exponent, mantissa_eq⟩ := scaled_of_isIntegral integral small nonzero
  have fraction := fractionField_lt x
  have positive : wholePart x ≠ 0 := by
    intro zero
    rw [zero, Nat.zero_mul] at scaled
    exact nonzero scaled
  have split : 2 ^ (52 - s) * 2 ^ s = 2 ^ 52 := by rw [← Nat.pow_add]; congr 1; omega
  have split' : 2 ^ (52 - s + 1) * 2 ^ s = 2 ^ 53 := by rw [← Nat.pow_add]; congr 1; omega
  have width : Nat.log2 (wholePart x) = 52 - s := by
    rw [Nat.log2_eq_iff positive]
    refine ⟨?_, ?_⟩
    · refine Nat.le_of_mul_le_mul_right ?_ (Nat.pow_pos (n := s) (a := 2) (by omega))
      omega
    · refine Nat.lt_of_mul_lt_mul_right (a := 2 ^ s) ?_
      omega
  have scale : 52 - (52 - s) = s := by omega
  have field : ((52 - s : Nat) : Int) + 0 + 1023 = (exponentField x : Int) := by omega
  rw [ofParts, if_neg positive]
  simp only [width]
  rw [if_pos (by omega), if_pos (by omega), scale, Nat.shiftLeft_eq, ← scaled, field, mantissa_eq,
    Int.toNat_natCast, Nat.pow_eq, Nat.add_sub_cancel, assemble_fields]

theorem truncate_eq (x : Float) :
    truncate x = if isNegative x then -(wholePart x : Int) else wholePart x := rfl

/-- **A small integer is the number of its value**, but for the sign of a zero. -/
theorem ofInteger_truncate {x : Float} (integral : isIntegral x = true)
    (small : wholePart x < 2 ^ 53) (nonzero : mantissa x ≠ 0) : ofInteger (truncate x) = x := by
  obtain ⟨s, -, scaled, -, -⟩ := scaled_of_isIntegral integral small nonzero
  have positive : wholePart x ≠ 0 := by
    intro zero
    rw [zero, Nat.zero_mul] at scaled
    exact nonzero scaled
  have magnitude : (truncate x).natAbs = wholePart x := by
    rw [truncate_eq]
    split <;> omega
  have sign : decide (truncate x < 0) = isNegative x := by
    rw [truncate_eq]
    cases isNegative x with
    | true =>
      have below : -(wholePart x : Int) < 0 := by omega
      simpa using below
    | false => simp
  rw [ofInteger, magnitude, sign, if_pos (show wholePart x ≤ Nat.pow 2 53 from Nat.le_of_lt small)]
  exact ofParts_wholePart integral small nonzero

/-- A number without a mantissa is a zero of either sign. -/
theorem eq_zero_of_mantissa {x : Float} (zero : mantissa x = 0) :
    x = assemble (isNegative x) 0 0 := by
  rw [mantissa] at zero
  split at zero
  next subnormal =>
    conv => lhs; rw [← assemble_fields x, subnormal, zero]
  next => simp at zero

theorem zero_beq (negative : Bool) : (ofInteger 0 == assemble negative 0 0) = true := by
  cases negative with
  | true => rfl
  | false => rfl

/-- **The fields of an integer** other than zero: the exponent tells how long it is, and the
fraction is what follows its first digit. -/
theorem fields_ofInteger {k : Int} (nonzero : k ≠ 0) (small : k.natAbs < 2 ^ 53) :
    isNegative (ofInteger k) = decide (k < 0) ∧
      exponentField (ofInteger k) = k.natAbs.log2 + 1023 ∧
      fractionField (ofInteger k) + 2 ^ 52 = k.natAbs * 2 ^ (52 - k.natAbs.log2) := by
  have positive : k.natAbs ≠ 0 := Int.natAbs_ne_zero.mpr nonzero
  have width : k.natAbs.log2 < 53 := (Nat.log2_lt positive).mpr small
  have split (j : Nat) (le : j ≤ 1) :
      2 ^ (k.natAbs.log2 + j) * 2 ^ (52 - k.natAbs.log2) = 2 ^ (52 + j) := by
    rw [← Nat.pow_add]
    congr 1
    omega
  have high : k.natAbs * 2 ^ (52 - k.natAbs.log2) < 2 ^ 53 := by
    have below : k.natAbs < 2 ^ (k.natAbs.log2 + 1) := Nat.lt_log2_self
    rw [← split 1 (by omega)]
    exact Nat.mul_lt_mul_of_pos_right below (Nat.pow_pos (by omega))
  have low : 2 ^ 52 ≤ k.natAbs * 2 ^ (52 - k.natAbs.log2) := by
    have above : 2 ^ k.natAbs.log2 ≤ k.natAbs := Nat.log2_self_le positive
    rw [← split 0 (by omega)]
    exact Nat.mul_le_mul_right _ above
  have field : ((k.natAbs.log2 : Int) + 0 + 1023).toNat = k.natAbs.log2 + 1023 := by omega
  rw [ofInteger, if_pos (show k.natAbs ≤ Nat.pow 2 53 from Nat.le_of_lt small), ofParts,
    if_neg positive]
  simp only [field]
  rw [if_pos (by omega), if_pos (by omega), Nat.shiftLeft_eq, Nat.pow_eq]
  obtain ⟨sign, exponent, fraction⟩ :=
    fields_assemble (decide (k < 0)) (e := k.natAbs.log2 + 1023)
      (f := k.natAbs * 2 ^ (52 - k.natAbs.log2) - 2 ^ 52) (by omega) (by omega)
  exact ⟨sign, exponent, by omega⟩

/-- Small integers are finite, and all but zero have a mantissa. -/
theorem finite_ofInteger {k : Int} (small : k.natAbs < 2 ^ 53) :
    isFinite (ofInteger k) = true ∧ (k ≠ 0 → mantissa (ofInteger k) ≠ 0) := by
  by_cases zero : k = 0
  · rw [zero]
    exact ⟨rfl, fun nonzero => absurd rfl nonzero⟩
  · have width : k.natAbs.log2 < 53 := (Nat.log2_lt (Int.natAbs_ne_zero.mpr zero)).mpr small
    obtain ⟨-, exponent, -⟩ := fields_ofInteger zero small
    refine ⟨?_, fun _ => ?_⟩
    · rw [isFinite, exponent, bne_iff_ne]
      omega
    · rw [mantissa, exponent, if_neg (by omega), Nat.pow_eq]
      omega

/-- The mantissa of an integer other than zero has all its digits, with zeros at the end. -/
theorem parts_ofInteger {k : Int} (nonzero : k ≠ 0) (small : k.natAbs < 2 ^ 53) :
    mantissa (ofInteger k) = k.natAbs * 2 ^ (52 - k.natAbs.log2) ∧
      Binary64.exponent (ofInteger k) = -((52 - k.natAbs.log2 : Nat) : Int) := by
  have width : k.natAbs.log2 < 53 := (Nat.log2_lt (Int.natAbs_ne_zero.mpr nonzero)).mpr small
  obtain ⟨-, exponent, fraction⟩ := fields_ofInteger nonzero small
  constructor
  · rw [mantissa, exponent, if_neg (by omega), Nat.pow_eq, fraction]
  · rw [Binary64.exponent, exponent, if_neg (by omega)]
    omega

theorem wholePart_ofInteger {k : Int} (small : k.natAbs < 2 ^ 53) :
    wholePart (ofInteger k) = k.natAbs := by
  by_cases zero : k = 0
  · rw [zero]
    rfl
  · obtain ⟨mantissa, exponent⟩ := parts_ofInteger zero small
    simp only [wholePart, mantissa, exponent]
    by_cases long : 52 ≤ k.natAbs.log2
    · simp [Nat.sub_eq_zero_of_le long]
    · have left : ¬ (0 : Int) ≤ -((52 - k.natAbs.log2 : Nat) : Int) := by omega
      rw [if_neg left, Int.neg_neg, Int.toNat_natCast, Nat.shiftRight_eq_div_pow,
        Nat.mul_div_cancel _ (Nat.pow_pos (by omega))]

/-- Small integers have no fractional part. -/
theorem isIntegral_ofInteger {k : Int} (small : k.natAbs < 2 ^ 53) :
    isIntegral (ofInteger k) = true := by
  by_cases zero : k = 0
  · rw [zero]
    decide +kernel
  · obtain ⟨mantissa, exponent⟩ := parts_ofInteger zero small
    rw [isIntegral, (finite_ofInteger small).1, Bool.true_and]
    simp only [mantissa, exponent]
    rw [Int.neg_neg, Int.toNat_natCast, Nat.pow_eq, Nat.mul_mod_left, beq_self_eq_true, Bool.or_true]

/-- **A small integer is its own whole part.** -/
theorem truncate_ofInteger {k : Int} (small : k.natAbs < 2 ^ 53) : truncate (ofInteger k) = k := by
  by_cases zero : k = 0
  · rw [zero]
    rfl
  · rw [truncate_eq, (fields_ofInteger zero small).1, wholePart_ofInteger small]
    by_cases negative : k < 0
    · simp only [negative, decide_true, if_true]
      omega
    · simp only [negative, decide_false, Bool.false_eq_true, if_false]
      omega

end StubMachine.Binary64
