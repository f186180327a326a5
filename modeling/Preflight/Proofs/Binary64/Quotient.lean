import Preflight.Binary64.Scaling
import Preflight.Proofs.Binary64.Accuracy
import Preflight.Proofs.Binary64.Decimal

/-!
# Quotients of numbers

A quotient is the number nearest to the exact one, and lies within one part in
`2 ^ 53` and one unit of it.
-/

namespace Preflight.Binary64

/-! ## Magnitudes -/

section Magnitudes

variable (dividend : Nat) {divisor : Nat} (positive : 0 < divisor)

include positive

theorem roundsTo_quotientUnits :
    RoundsTo ((dividend : ℚ) / (divisor / unitsPerOne))
      (quotientUnits dividend divisor) := by
  have rounded := roundsTo_roundUnits (dividend * unitsPerOne) positive
  rwa [Nat.cast_mul, ← div_div_eq_mul_div] at rounded

theorem near_quotientUnits :
    Near 1 (1 / 2) ((dividend : ℚ) / (divisor / unitsPerOne))
      (quotientUnits dividend divisor) := by
  have near := near_roundUnits_half (dividend * unitsPerOne) positive
  rwa [Nat.cast_mul, ← div_div_eq_mul_div] at near

theorem abs_quotientUnits_sub_le :
    |(quotientUnits dividend divisor : ℚ) -
        dividend / (divisor / unitsPerOne)| ≤
      dividend / (divisor / unitsPerOne) / 2 ^ 53 + 1 := by
  have factor : stepFactor ^ 1 ≤ 1 + 1 / 2 ^ 53 := by
    rw [pow_one, stepFactor]
  have nonnegative : (0 : ℚ) ≤ dividend / (divisor / unitsPerOne) :=
    div_nonneg (Nat.cast_nonneg dividend)
      (div_nonneg (Nat.cast_nonneg divisor) cast_unitsPerOne_pos.le)
  have distance :=
    (near_quotientUnits dividend positive).abs_sub_le factor nonnegative
      (Nat.cast_nonneg _) (by norm_num)
  have slack : (1 + 1 / 2 ^ 53 : ℚ) * (1 / 2) ≤ 1 := by norm_num
  rw [mul_one_div] at distance
  exact distance.trans (add_le_add_right slack _)

end Magnitudes

/-! ## Numbers -/

/-- The quotient of two numbers that are not negative. -/
def quotient (dividend divisor : Binary64) : Binary64 :=
  ofUnits false (quotientUnits dividend.units divisor.units)

theorem units_pos_of_isPositive {x : Binary64} (positive : x.isPositive = true) :
    0 < x.units := by
  have nonzero := (toRat_pos_iff.1 (isPositive_iff.1 positive).2).2
  rw [Nat.pos_iff_ne_zero, Ne, units_eq_zero_iff, nonzero]
  exact Bool.false_ne_true

section Numbers

variable {dividend divisor : Binary64}
  (nonnegative : dividend.isNegative = false)
  (positive : divisor.isPositive = true)

include nonnegative positive

theorem quotient_in_units :
    (dividend.units : ℚ) / (divisor.units / unitsPerOne) =
      dividend.toRat / divisor.toRat * unitsPerOne := by
  have divisorSign := (toRat_pos_iff.1 (isPositive_iff.1 positive).2).1
  rw [toRat_of_not_isNegative nonnegative, toRat_of_not_isNegative divisorSign,
    div_mul_eq_mul_div, div_mul_cancel₀ _ cast_unitsPerOne_pos.ne']

theorem quotient_nonneg : 0 ≤ dividend.toRat / divisor.toRat := by
  have divisorPositive := (isPositive_iff.1 positive).2
  apply div_nonneg _ divisorPositive.le
  rw [toRat_of_not_isNegative nonnegative]
  exact div_nonneg (Nat.cast_nonneg _) cast_unitsPerOne_pos.le

variable (inRange : dividend.toRat / divisor.toRat < overflowBound)

include inRange

theorem roundsTo_quotient :
    quotientUnits dividend.units divisor.units < unitsLimit ∧
      RoundsTo (dividend.toRat / divisor.toRat * unitsPerOne)
        (quotientUnits dividend.units divisor.units) := by
  have rounded :=
    roundsTo_quotientUnits dividend.units (units_pos_of_isPositive positive)
  rw [quotient_in_units nonnegative positive] at rounded
  exact ⟨rounded.lt_unitsLimit_iff.2 inRange, rounded⟩

theorem isNearestTo_quotient :
    (quotient dividend divisor).IsNearestTo
      (dividend.toRat / divisor.toRat) := by
  obtain ⟨small, rounded⟩ := roundsTo_quotient nonnegative positive inRange
  have nearest :=
    rounded.isNearestTo_ofUnits small false
      (quotient_nonneg nonnegative positive)
  rwa [signed_false] at nearest

theorem toRat_quotient :
    (quotient dividend divisor).toRat =
      quotientUnits dividend.units divisor.units / unitsPerOne := by
  obtain ⟨small, rounded⟩ := roundsTo_quotient nonnegative positive inRange
  rw [quotient, toRat_ofUnits small false rounded.onGrid, signed_false]

theorem abs_quotient_sub_le :
    |(quotient dividend divisor).toRat - dividend.toRat / divisor.toRat| ≤
      dividend.toRat / divisor.toRat / 2 ^ 53 + 1 / unitsPerOne := by
  have distance :=
    abs_quotientUnits_sub_le dividend.units (units_pos_of_isPositive positive)
  rw [quotient_in_units nonnegative positive, mul_div_right_comm] at distance
  rw [toRat_quotient nonnegative positive inRange, abs_div_unitsPerOne_sub,
    div_le_iff₀ cast_unitsPerOne_pos, add_mul,
    div_mul_cancel₀ _ cast_unitsPerOne_pos.ne']
  exact distance

end Numbers

end Preflight.Binary64
