import Mathlib.Algebra.Order.Field.Basic
import Mathlib.Algebra.Order.Field.Rat
import Preflight.Proofs.Binary64.Rounding

/-!
# The value of a floating point number

A finite number has a rational value, its magnitude in units with its sign.
The positive numbers are the finite ones whose value is.
-/

namespace Preflight.Binary64

/-- The value of a finite number. -/
def toRat (x : Binary64) : ℚ :=
  (if x.isNegative then -1 else 1) * ((x.units : ℚ) / unitsPerOne)

theorem cast_unitsPerOne_pos : (0 : ℚ) < unitsPerOne :=
  Nat.cast_pos.2 unitsPerOne_pos

theorem units_eq_zero_iff {x : Binary64} :
    x.units = 0 ↔ x.isZero = true := by
  simp only [units, isZero, Bool.and_eq_true, beq_iff_eq]
  by_cases small : x.exponentField = 0
  · simp [small]
  · have gap := two_pow_pos (x.exponentField - 1)
    have leading := two_pow_pos 52
    rw [if_neg small, Nat.mul_eq_zero]
    constructor
    · intro zero
      omega
    · rintro ⟨isSmall, _⟩
      exact absurd isSmall small

theorem toRat_pos_iff {x : Binary64} :
    0 < x.toRat ↔ x.isNegative = false ∧ x.isZero = false := by
  have one := cast_unitsPerOne_pos
  have magnitude : (0 : ℚ) ≤ (x.units : ℚ) / unitsPerOne :=
    div_nonneg (Nat.cast_nonneg x.units) one.le
  have nonzero :
      (0 : ℚ) < (x.units : ℚ) / unitsPerOne ↔ x.isZero = false := by
    rw [div_pos_iff_of_pos_right one, Nat.cast_pos, Nat.pos_iff_ne_zero, Ne,
      units_eq_zero_iff, Bool.not_eq_true]
  unfold toRat
  -- From here on the number of units in one is not to be evaluated.
  generalize (x.units : ℚ) / unitsPerOne = value at magnitude nonzero ⊢
  cases x.isNegative with
  | true =>
      simpa using magnitude
  | false =>
      simpa using nonzero

/-- Positive are the finite numbers above zero. -/
theorem isPositive_iff {x : Binary64} :
    x.isPositive = true ↔ x.isFinite = true ∧ 0 < x.toRat := by
  rw [toRat_pos_iff, isPositive, Bool.and_eq_true, Bool.and_eq_true,
    Bool.not_eq_true', Bool.not_eq_true', and_assoc]

end Preflight.Binary64
