import StubMachine.Json.Exchange
import StubMachine.Proofs.Numeral.Whole

/-!
# The numbers of documents

A document writes a number without a fractional part as an integer if its magnitude is
below `2 ^ 53`, and any other finite number as it is.  **What is written is equal to the
number** (`Json.written_beq`); the only number that it is not is negative zero, which
becomes zero.
-/

namespace StubMachine.Json
open Binary64

/-- The number that stands in a document for a finite number: a small integer for one without a
fractional part, where negative zero is zero. -/
def written (n : Float) : Float :=
  if Style.json.writesInteger n then ofInteger (truncate n) else n

theorem ofNumber_finite {n : Float} (finite : isFinite n = true) :
    ofNumber n = .number (written n) := by
  simp only [ofNumber, finite, written, Bool.not_true, Bool.false_eq_true, if_false]
  split <;> rfl

theorem writesInteger_iff (n : Float) :
    Style.json.writesInteger n = true ↔ isIntegral n = true ∧ wholePart n < 2 ^ 53 := by
  rw [Style.writesInteger, Bool.and_eq_true, decide_eq_true_eq]
  exact Iff.rfl

/-- What is written is the number itself, unless that is a zero. -/
theorem written_cases (n : Float) :
    written n = n ∨ mantissa n = 0 ∧ written n = ofInteger 0 := by
  by_cases integer : Style.json.writesInteger n = true
  · obtain ⟨integral, small⟩ := (writesInteger_iff n).mp integer
    rw [written, if_pos integer]
    by_cases zero : mantissa n = 0
    · refine .inr ⟨zero, ?_⟩
      rw [eq_zero_of_mantissa zero]
      cases isNegative n <;> rfl
    · exact .inl (ofInteger_truncate integral small zero)
  · exact .inl (by rw [written, if_neg integer])

/-- **What is written of a finite number is equal to it.** -/
theorem written_beq {n : Float} (finite : isFinite n = true) : (written n == n) = true := by
  rcases written_cases n with same | ⟨zero, eq⟩
  · rw [same]
    exact beq_self_of_isFinite finite
  · rw [eq, eq_zero_of_mantissa zero]
    exact zero_beq _

theorem written_finite {n : Float} (finite : isFinite n = true) : isFinite (written n) = true := by
  rcases written_cases n with same | ⟨-, eq⟩
  · rw [same]
    exact finite
  · rw [eq]
    rfl

/-- The numbers that documents hold as they are: integers of magnitude below `2 ^ 53`, and finite
numbers that are no integers. -/
inductive Exact : Float → Prop
  | integer {k : Int} (small : k.natAbs ≤ 2 ^ 53 - 1) : Exact (ofInteger k)
  | fraction {n : Float} (finite : isFinite n = true) (broken : isIntegral n = false) : Exact n

theorem Exact.finite {n : Float} (exact : Exact n) : isFinite n = true := by
  cases exact with
  | integer small => exact (finite_ofInteger (by omega)).1
  | fraction finite => exact finite

theorem Exact.written {n : Float} (exact : Exact n) : Json.written n = n := by
  cases exact with
  | @integer k small =>
    rcases written_cases (ofInteger k) with same | ⟨zero, eq⟩
    · exact same
    · rw [eq]
      by_cases trivial : k = 0
      · rw [trivial]
      · exact absurd zero ((finite_ofInteger (by omega)).2 trivial)
  | fraction finite broken =>
    have fractional : ¬ Style.json.writesInteger n = true := by
      rw [writesInteger_iff, broken]
      simp
    rw [Json.written, if_neg fractional]

end StubMachine.Json
