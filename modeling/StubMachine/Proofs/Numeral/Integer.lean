import StubMachine.Proofs.Numeral.Fields

/-!
# Small integers among the numbers

On integers of magnitude at most `2 ^ 53` the arithmetic of numbers is exact.  This module
shows it of what counting needs: **adding one and subtracting one, and comparing**.

A number is unpacked into a sign, a mantissa and an exponent.  An integer `n` other than
zero has one unpacked form, with an exponent that tells how long `n` is, and a mantissa that
makes up the rest (`Stands`).  A sum is computed exactly, at the exponent of one, and then
rounded; but a small integer fits, and **what fits is not rounded** (`round_exact`).
-/

namespace StubMachine.Binary64

open Float.Model UnpackedFloat

/-! ## Rounding -/

/-- Zeros at the end of a mantissa are shifted out without loss. -/
theorem shiftRight_exact (m k : Nat) :
    (⟨m * 2 ^ k, false, false⟩ : ExtendedMantissa) >>> k = ⟨m, false, false⟩ := by
  show k.repeat ExtendedMantissa.shiftRightOne _ = _
  induction k generalizing m with
  | zero => rw [Nat.pow_zero, Nat.mul_one]; rfl
  | succ k ih =>
    have twice : m * 2 ^ (k + 1) = 2 * m * 2 ^ k := by rw [Nat.pow_succ]; ring
    rw [Nat.repeat, twice, ih]
    simp [ExtendedMantissa.shiftRightOne]

theorem log2_scaled {m : Nat} (pos : 0 < m) (k : Nat) : (m * 2 ^ k).log2 = m.log2 + k := by
  have scaled : m * 2 ^ k ≠ 0 := Nat.mul_ne_zero (by omega) (Nat.pow_pos (by omega)).ne'
  rw [Nat.log2_eq_iff scaled, Nat.pow_add, Nat.add_right_comm, Nat.pow_add]
  have bounds := (Nat.log2_eq_iff pos.ne').mp rfl
  exact ⟨Nat.mul_le_mul_right _ bounds.1,
    Nat.mul_lt_mul_of_pos_right bounds.2 (Nat.pow_pos (by omega))⟩

/-- Where a number of a certain length has its last digit stays if zeros are added. -/
theorem totalExponent_scaled {m : Nat} (pos : 0 < m) (k : Nat) (e : Int) :
    totalExponent (m * 2 ^ k) e = totalExponent m (e + k) := by
  rw [totalExponent, totalExponent, log2_scaled pos]
  omega

/-- A mantissa that is at its exponent already stays there. -/
theorem shiftToTargetExponent_exact (m k : Nat) {e : Int} {t : Int} (shifted : t = e + k)
    (pos : 0 < m) (target : Format.binary64.targetExponent (totalExponent m t) = t) :
    shiftToTargetExponent .binary64 (m * 2 ^ k) e .exact = (⟨m, false, false⟩, t) := by
  have amount : (t - e).toNat = k := by omega
  rw [shiftToTargetExponent, totalExponent_scaled pos, ← shifted, target, shiftToExponent]
  simp only [amount, ExtendedMantissa.ofMantissaAndAccuracy, shiftRight_exact, ← shifted]

/-- **What fits is not rounded.** -/
theorem round_exact (s : Sign) {m k : Nat} {e t : Int} (shifted : t = e + k) (pos : 0 < m)
    (target : Format.binary64.targetExponent (totalExponent m t) = t) :
    UnpackedFloat.round .binary64 s (m * 2 ^ k) e = .finite s m t pos := by
  have kept : decreaseExponent (m * 2 ^ k) e t = (m * 2 ^ k, e) := by
    have amount : (e - t).toNat = 0 := by omega
    rw [decreaseExponent, amount]
    simp
  have again := shiftToTargetExponent_exact m 0 (e := t) (t := t) (by simp) pos target
  rw [Nat.pow_zero, Nat.mul_one] at again
  rw [UnpackedFloat.round, totalExponent_scaled pos, ← shifted, target, kept]
  simp only [roundWithAccuracy, shiftToTargetExponent_exact m k shifted pos target,
    ExtendedMantissa.roundedMantissa, ExtendedMantissa.accuracy, Accuracy.roundToNearestEven, again]
  rw [dif_neg pos.ne']

/-! ## Unpacked integers -/

/-- The sign of an integer; that of zero is positive. -/
def signOf (n : Int) : Sign := if n < 0 then .negative else .positive

/-- **An unpacked number that stands for an integer.** -/
inductive Stands : Int → UnpackedFloat → Prop
  | zero (s : Sign) : Stands 0 (.zero s)
  | finite {n : Int} {m : Nat} (pos : 0 < m) : n ≠ 0 →
      m * 2 ^ n.natAbs.log2 = n.natAbs * 2 ^ 52 →
      Stands n (.finite (signOf n) m ((n.natAbs.log2 : Int) - 52) pos)

section Unpacked
variable {n : Int} {m : Nat}

theorem log2_bounds (nonzero : n ≠ 0) :
    2 ^ n.natAbs.log2 ≤ n.natAbs ∧ n.natAbs < 2 ^ (n.natAbs.log2 + 1) :=
  (Nat.log2_eq_iff (Int.natAbs_ne_zero.mpr nonzero)).mp rfl

/-- The mantissa of an integer has all its digits. -/
theorem mantissa_bounds (nonzero : n ≠ 0) (scaled : m * 2 ^ n.natAbs.log2 = n.natAbs * 2 ^ 52) :
    2 ^ 52 ≤ m ∧ m < 2 ^ 53 := by
  obtain ⟨low, high⟩ := log2_bounds nonzero
  have positive : 0 < 2 ^ n.natAbs.log2 := Nat.pow_pos (by omega)
  constructor
  · refine Nat.le_of_mul_le_mul_right ?_ positive
    rw [scaled, Nat.mul_comm]
    exact Nat.mul_le_mul_right _ low
  · refine Nat.lt_of_mul_lt_mul_right (a := 2 ^ n.natAbs.log2) ?_
    rw [scaled]
    rw [Nat.pow_succ] at high
    omega

theorem log2_mantissa (low : 2 ^ 52 ≤ m) (high : m < 2 ^ 53) : m.log2 = 52 :=
  (Nat.log2_eq_iff (by omega)).mpr ⟨low, high⟩

theorem log2_small (nonzero : n ≠ 0) (small : n.natAbs ≤ 2 ^ 53) : n.natAbs.log2 ≤ 53 := by
  have lt : n.natAbs.log2 < 54 := (Nat.log2_lt (Int.natAbs_ne_zero.mpr nonzero)).mpr (by omega)
  omega

/-- A small integer has a mantissa of fifty-three digits. -/
theorem exists_mantissa (nonzero : n ≠ 0) (small : n.natAbs ≤ 2 ^ 53) :
    ∃ m, 0 < m ∧ m * 2 ^ n.natAbs.log2 = n.natAbs * 2 ^ 52 := by
  obtain ⟨low, high⟩ := log2_bounds nonzero
  have width := log2_small nonzero small
  by_cases longest : n.natAbs.log2 = 53
  · rw [longest] at low ⊢
    exact ⟨2 ^ 52, by omega, by omega⟩
  · refine ⟨n.natAbs * 2 ^ (52 - n.natAbs.log2), ?_, ?_⟩
    · exact Nat.mul_pos (by omega) (Nat.pow_pos (by omega))
    · rw [Nat.mul_assoc, ← Nat.pow_add, Nat.sub_add_cancel (by omega)]

/-- The exponent of an integer is the one that its length asks for. -/
theorem target_of_mantissa (low : 2 ^ 52 ≤ m) (high : m < 2 ^ 53) {t : Int} (above : -1074 ≤ t) :
    Format.binary64.targetExponent (totalExponent m t) = t := by
  have digits : (Format.binary64.mantissaBits : Int) = 53 := rfl
  have least : Format.binary64.minExponent = -1074 := rfl
  rw [Format.targetExponent, totalExponent, log2_mantissa low high, digits, least]
  omega

/-- **A small integer, put together from its digits, stands for itself.** -/
theorem normalize_stands (small : n.natAbs ≤ 2 ^ 53) :
    Stands n (UnpackedFloat.normalize .binary64 (n * 2 ^ 52) (-52) .positive) := by
  by_cases nonzero : n = 0
  · rw [nonzero]
    exact .zero .positive
  obtain ⟨m, pos, scaled⟩ := exists_mantissa nonzero small
  obtain ⟨low, high⟩ := mantissa_bounds nonzero scaled
  have target : Format.binary64.targetExponent (totalExponent m ((n.natAbs.log2 : Int) - 52)) =
    (n.natAbs.log2 : Int) - 52 := target_of_mantissa low high (by omega)
  have rounded (s : Sign) : UnpackedFloat.round .binary64 s (n.natAbs * 2 ^ 52) (-52) =
      .finite s m ((n.natAbs.log2 : Int) - 52) pos := by
    rw [← scaled]
    exact round_exact s (by omega) pos target
  have stands := Stands.finite pos nonzero scaled
  by_cases negative : n < 0
  · have below : compare (n * 2 ^ 52) 0 = .lt := by
      rw [Int.compare_eq_lt]
      omega
    have magnitude : (-(n * 2 ^ 52)).toNat = n.natAbs * 2 ^ 52 := by omega
    rw [UnpackedFloat.normalize, below]
    simp only [magnitude, rounded]
    rwa [signOf, if_pos negative] at stands
  · have above : compare (n * 2 ^ 52) 0 = .gt := by
      rw [Int.compare_eq_gt]
      omega
    have magnitude : (n * 2 ^ 52).toNat = n.natAbs * 2 ^ 52 := by omega
    rw [UnpackedFloat.normalize, above]
    simp only [magnitude, rounded]
    rwa [signOf, if_neg negative] at stands

/-! ## Adding one -/

/-- An integer at the exponent of one. -/
theorem Stands.aligned {s : Sign} {e : Int} {pos : 0 < m} (h : Stands n (.finite s m e pos)) :
    ∃ k : Nat, e = (k : Int) - 52 ∧ s.apply (m * 2 ^ k : Nat) = n * 2 ^ 52 := by
  cases h with
  | finite _ nonzero scaled =>
    refine ⟨n.natAbs.log2, rfl, ?_⟩
    rw [scaled, signOf]
    split
    · show -((n.natAbs * 2 ^ 52 : Nat) : Int) = _
      omega
    · show ((n.natAbs * 2 ^ 52 : Nat) : Int) = _
      omega

/-- **Adding one to a small integer**, or subtracting it, is exact. -/
theorem Stands.add_unit {u : UnpackedFloat} {s : Sign} (h : Stands n u)
    (small : (n + s.apply 1).natAbs ≤ 2 ^ 53) :
    Stands (n + s.apply 1)
      (UnpackedFloat.add .binary64 u (.finite s (2 ^ 52) (-52) (by decide))) := by
  have unit : s.apply (2 ^ 52 : Nat) = s.apply 1 * 2 ^ 52 := by cases s <;> rfl
  cases u with
  | infinity _ | notANumber => cases h
  | zero s' =>
    cases h
    rw [Int.zero_add] at small ⊢
    have one : Stands (s.apply 1) (.finite (signOf (s.apply 1)) (2 ^ 52)
        (((s.apply 1).natAbs.log2 : Int) - 52) (by decide)) :=
      .finite _ (by cases s <;> decide) (by cases s <;> decide)
    cases s with
    | negative => exact one
    | positive => exact one
  | finite s' m e pos =>
    obtain ⟨k, rfl, aligned⟩ := h.aligned
    have least : min ((k : Int) - 52) (-52) = -52 := by omega
    have first : decreaseExponent m ((k : Int) - 52) (-52) = (m * 2 ^ k, -52) := by
      have amount : ((k : Int) - 52 - -52).toNat = k := by omega
      rw [decreaseExponent, amount, Nat.shiftLeft_eq]
      congr 1
      omega
    have second : decreaseExponent (2 ^ 52) (-52) (-52) = (2 ^ 52, -52) := rfl
    rw [UnpackedFloat.add]
    simp only [least, first, second]
    rw [aligned, unit, ← Int.add_mul]
    exact normalize_stands small

/-! ## Comparing -/

/-- The longer of two integers has the greater magnitude, and of two that are equally long the one
with the greater mantissa. -/
theorem compare_magnitudes {n' : Int} {m' : Nat} (nonzero : n ≠ 0) (nonzero' : n' ≠ 0)
    (scaled : m * 2 ^ n.natAbs.log2 = n.natAbs * 2 ^ 52)
    (scaled' : m' * 2 ^ n'.natAbs.log2 = n'.natAbs * 2 ^ 52) :
    (compare ((n.natAbs.log2 : Int) - 52) ((n'.natAbs.log2 : Int) - 52)).then (compare m m') =
      compare n.natAbs n'.natAbs := by
  obtain ⟨low, high⟩ := log2_bounds nonzero
  obtain ⟨low', high'⟩ := log2_bounds nonzero'
  rcases Nat.lt_trichotomy n.natAbs.log2 n'.natAbs.log2 with shorter | same | longer
  · have below : 2 ^ (n.natAbs.log2 + 1) ≤ 2 ^ n'.natAbs.log2 :=
      Nat.pow_le_pow_right (by omega) shorter
    have less : n.natAbs < n'.natAbs := by omega
    rw [Int.compare_eq_lt.mpr (by omega), Nat.compare_eq_lt.mpr less]
    rfl
  · rw [← same] at scaled' ⊢
    have positive : 0 < 2 ^ n.natAbs.log2 := Nat.pow_pos (by omega)
    rw [Int.compare_eq_eq.mpr rfl]
    show compare m m' = _
    rcases Nat.lt_trichotomy m m' with less | equal | greater
    · have := Nat.mul_lt_mul_of_pos_right less positive
      rw [Nat.compare_eq_lt.mpr less, Nat.compare_eq_lt.mpr (by omega)]
    · rw [equal] at scaled ⊢
      rw [Nat.compare_eq_eq.mpr rfl, Nat.compare_eq_eq.mpr (by omega)]
    · have := Nat.mul_lt_mul_of_pos_right greater positive
      rw [Nat.compare_eq_gt.mpr greater, Nat.compare_eq_gt.mpr (by omega)]
  · have below : 2 ^ (n'.natAbs.log2 + 1) ≤ 2 ^ n.natAbs.log2 :=
      Nat.pow_le_pow_right (by omega) longer
    have greater : n'.natAbs < n.natAbs := by omega
    rw [Int.compare_eq_gt.mpr (by omega), Nat.compare_eq_gt.mpr greater]
    rfl

/-- Integers of one sign compare as their magnitudes do, or the other way around. -/
theorem compare_of_natAbs {n' : Int} {o : Ordering} (h : compare n.natAbs n'.natAbs = o) :
    (0 ≤ n → 0 ≤ n' → compare n n' = o) ∧ (n < 0 → n' < 0 → compare n n' = o.swap) := by
  cases o with
  | lt =>
    have less := Nat.compare_eq_lt.mp h
    exact ⟨fun _ _ => Int.compare_eq_lt.mpr (by omega),
      fun _ _ => Int.compare_eq_gt.mpr (by omega)⟩
  | eq =>
    have equal := Nat.compare_eq_eq.mp h
    exact ⟨fun _ _ => Int.compare_eq_eq.mpr (by omega),
      fun _ _ => Int.compare_eq_eq.mpr (by omega)⟩
  | gt =>
    have greater := Nat.compare_eq_gt.mp h
    exact ⟨fun _ _ => Int.compare_eq_gt.mpr (by omega),
      fun _ _ => Int.compare_eq_lt.mpr (by omega)⟩

/-- **Two unpacked numbers that stand for integers compare as these do.** -/
theorem Stands.compare {n' : Int} {u u' : UnpackedFloat} (h : Stands n u) (h' : Stands n' u') :
    u.compare u' = some (compare n n') := by
  cases h with
  | zero s =>
    cases h' with
    | zero s' => rfl
    | @finite _ m' pos' nonzero' scaled' =>
      rw [signOf]
      split
      · exact congrArg some (Int.compare_eq_gt.mpr (by omega)).symm
      · exact congrArg some (Int.compare_eq_lt.mpr (by omega)).symm
  | @finite _ m pos nonzero scaled =>
    cases h' with
    | zero s' =>
      rw [signOf]
      split
      · exact congrArg some (Int.compare_eq_lt.mpr (by omega)).symm
      · exact congrArg some (Int.compare_eq_gt.mpr (by omega)).symm
    | @finite _ m' pos' nonzero' scaled' =>
      have magnitudes := compare_magnitudes nonzero nonzero' scaled scaled'
      obtain ⟨positive, negative⟩ := compare_of_natAbs magnitudes.symm
      -- of two integers with one sign the magnitudes decide, else the signs
      by_cases below : n < 0
      · by_cases below' : n' < 0
        · rw [signOf, signOf, if_pos below, if_pos below', negative below below']
          rfl
        · rw [signOf, signOf, if_pos below, if_neg below']
          exact congrArg some (Int.compare_eq_lt.mpr (by omega)).symm
      · by_cases below' : n' < 0
        · rw [signOf, signOf, if_neg below, if_pos below']
          exact congrArg some (Int.compare_eq_gt.mpr (by omega)).symm
        · rw [signOf, signOf, if_neg below, if_neg below', positive (by omega) (by omega)]
          rfl

end Unpacked

/-! ## Packing -/

/-- The exponent of a small integer has a field of its own, that of a normal number. -/
theorem exponentBits {w : Nat} (small : w ≤ 53) :
    (BitVec.ofNat 11 (w + 1023)).toNat = w + 1023 ∧ BitVec.ofNat 11 (w + 1023) ≠ -1#11 ∧
      BitVec.ofNat 11 (w + 1023) ≠ 0#11 := by
  have bits : (BitVec.ofNat 11 (w + 1023)).toNat = w + 1023 := by
    rw [BitVec.toNat_ofNat]
    omega
  have all : (-1#11).toNat = 2047 := rfl
  have none : (0#11).toNat = 0 := rfl
  refine ⟨bits, fun eq => ?_, fun eq => ?_⟩
  · rw [eq] at bits
    omega
  · rw [eq] at bits
    omega

/-- A mantissa is its fraction with the leading bit in front. -/
theorem mantissaBits {m : Nat} (low : 2 ^ 52 ≤ m) (high : m < 2 ^ 53) :
    (1#1 ++ BitVec.ofNat 52 m).toNat = m := by
  rw [toNat_leading, BitVec.toNat_ofNat]
  omega

/-- **An unpacked small integer survives packing.** -/
theorem Stands.unpack_pack {n : Int} {u : UnpackedFloat} (h : Stands n u)
    (small : n.natAbs ≤ 2 ^ 53) : (Float.Model.pack u).unpack = u := by
  show unpack .binary64 (UnpackedFloat.pack .binary64 u) = u
  cases h with
  | zero s => cases s <;> rfl
  | @finite _ m pos nonzero scaled =>
    obtain ⟨low, high⟩ := mantissa_bounds nonzero scaled
    have width := log2_small nonzero small
    generalize n.natAbs.log2 = w at width
    have digits : Format.binary64.mantissaBits = 52 + 1 := rfl
    have field : (((w : Int) - 52) + Format.binary64.exponentBias +
        Format.binary64.mantissaBitsWithoutImplicit).toNat = w + 1023 := by
      show (((w : Int) - 52) + (1023 : Nat) + (52 : Nat)).toNat = _
      omega
    obtain ⟨bits, finite, normal⟩ := exponentBits width
    have exponent : ((w + 1023 : Nat) : Int) - ((Format.binary64.exponentBias : Int) +
        (Format.binary64.mantissaBitsWithoutImplicit : Int)) = (w : Int) - 52 := by
      show ((w + 1023 : Nat) : Int) - ((1023 : Nat) + (52 : Nat)) = _
      omega
    rw [UnpackedFloat.pack]
    simp only [log2_mantissa low high, field]
    rw [if_neg (by omega), if_pos digits.symm, UnpackedFloat.unpack]
    simp only [unpackMantissa_packComponents, unpackExponent_packComponents,
      unpackSign_packComponents, Sign.ofBitVec_toBitVec]
    rw [if_neg finite, if_neg normal]
    simp only [mantissaBits low high, bits, exponent]

/-! ## Numbers -/

/-- **A number that is an integer**; zero may have either sign. -/
def IsInteger (x : Float) (n : Int) : Prop := Stands n x.toModel.unpack

/-- Shifting an integer until its first digit is the fifty-third gives its mantissa. -/
theorem mantissa_shifted {n : Int} {m : Nat} (nonzero : n ≠ 0) (small : n.natAbs ≤ 2 ^ 53)
    (scaled : m * 2 ^ n.natAbs.log2 = n.natAbs * 2 ^ 52) :
    (if n.natAbs.log2 ≤ 52 then n.natAbs <<< (52 - n.natAbs.log2)
      else n.natAbs >>> (n.natAbs.log2 - 52)) = m := by
  have width := log2_small nonzero small
  refine Nat.eq_of_mul_eq_mul_right (Nat.pow_pos (n := n.natAbs.log2) (a := 2) (by omega)) ?_
  rw [scaled]
  split
  · rw [Nat.shiftLeft_eq, Nat.mul_assoc, ← Nat.pow_add, Nat.sub_add_cancel ‹_›]
  · -- the only integer that is longer is the bound itself
    have longest : n.natAbs.log2 = 53 := by omega
    have exact := (log2_bounds nonzero).1
    rw [longest] at exact ⊢
    have largest : n.natAbs = 2 ^ 53 := by omega
    rw [largest]
    rfl

theorem IsInteger.ofInteger {n : Int} (small : n.natAbs ≤ 2 ^ 53) : IsInteger (Binary64.ofInteger n) n := by
  by_cases zero : n = 0
  · rw [zero]
    exact .zero .positive
  obtain ⟨m, pos, scaled⟩ := exists_mantissa zero small
  obtain ⟨low, high⟩ := mantissa_bounds zero scaled
  have width := log2_small zero small
  have positive : n.natAbs ≠ 0 := Int.natAbs_ne_zero.mpr zero
  have shifted := mantissa_shifted zero small scaled
  have field : ((n.natAbs.log2 : Int) + 0 + 1023).toNat = n.natAbs.log2 + 1023 := by omega
  have assembled : Binary64.ofInteger n =
      assemble (decide (n < 0)) (n.natAbs.log2 + 1023) (m - 2 ^ 52) := by
    rw [Binary64.ofInteger, if_pos (show n.natAbs ≤ Nat.pow 2 53 from small), ofParts, if_neg positive]
    simp only [shifted, field]
    rw [if_pos (by omega)]
    rfl
  obtain ⟨sign, exponent, fraction⟩ :=
    fields_assemble (decide (n < 0)) (e := n.natAbs.log2 + 1023) (f := m - 2 ^ 52) (by omega)
      (by omega)
  rw [← assembled] at sign exponent fraction
  have unpacked := unpack_of_fields (x := Binary64.ofInteger n) (by omega) (by omega) pos (by omega)
  rw [IsInteger, unpacked, sign, exponent]
  have stands := Stands.finite pos zero scaled
  rw [signOf] at stands
  rw [show ((n.natAbs.log2 + 1023 : Nat) : Int) - 1075 = n.natAbs.log2 - 52 by omega]
  simpa only [decide_eq_true_eq] using stands

namespace IsInteger
variable {x y : Float} {n n' : Int}

/-- Integers compare as such. -/
theorem lt_iff (h : IsInteger x n) (h' : IsInteger y n') : x < y ↔ n < n' := by
  have compared := Stands.compare h h'
  show decide (UnpackedFloat.lt x.toModel.unpack y.toModel.unpack = true) = true ↔ _
  rw [decide_eq_true_iff, UnpackedFloat.lt, compared, beq_iff_eq, Option.some_inj]
  exact Int.compare_eq_lt

theorem le_iff (h : IsInteger x n) (h' : IsInteger y n') : x ≤ y ↔ n ≤ n' := by
  have compared := Stands.compare h h'
  show decide (UnpackedFloat.le x.toModel.unpack y.toModel.unpack = true) = true ↔ _
  rw [decide_eq_true_iff, UnpackedFloat.le, compared, Option.any_some]
  exact Int.isLE_compare

theorem beq_iff (h : IsInteger x n) (h' : IsInteger y n') : (x == y) = true ↔ n = n' := by
  have compared := Stands.compare h h'
  show UnpackedFloat.beq x.toModel.unpack y.toModel.unpack = true ↔ _
  rw [UnpackedFloat.beq, compared, beq_iff_eq, Option.some_inj]
  exact Int.compare_eq_eq

/-- **Adding one to a small integer is exact.** -/
theorem add_one (h : IsInteger x n) (small : (n + 1).natAbs ≤ 2 ^ 53) :
    IsInteger (x + 1.0) (n + 1) := by
  have sum := Stands.add_unit (s := .positive) h small
  show Stands (n + 1) (Float.Model.pack _).unpack
  exact (sum.unpack_pack small).symm ▸ sum

/-- **Subtracting one from a small integer is exact.** -/
theorem sub_one (h : IsInteger x n) (small : (n - 1).natAbs ≤ 2 ^ 53) :
    IsInteger (x + -1.0) (n - 1) := by
  have sum := Stands.add_unit (s := .negative) h small
  show Stands (n + -1) (Float.Model.pack _).unpack
  exact (sum.unpack_pack small).symm ▸ sum

/-- A number that is equal to an integer is that integer. -/
theorem of_beq (small : n.natAbs ≤ 2 ^ 53) (equal : (x == Binary64.ofInteger n) = true) :
    IsInteger x n := by
  obtain ⟨-, -, same | ⟨zero, zero'⟩ | ⟨zero, zero'⟩⟩ := Float.beq_iff_ne_nan_and_eq.mp equal
  · rw [same]
    exact .ofInteger small
  all_goals
    have stands : IsInteger (Binary64.ofInteger n) n := .ofInteger small
    rw [zero'] at stands
    cases stands
    rw [zero]
    exact .zero _

end IsInteger

end StubMachine.Binary64
