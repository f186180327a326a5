import Mathlib.Algebra.Order.Round
import Preflight.Proofs.Analyzer
import Preflight.Proofs.Binary64.Quotient
import Preflight.Proofs.Binary64.Word

/-!
# Comparative counts

The comparative count is the quotient of the estimate and the ratio, rounded
to a number first and then to a whole number. A quotient with an odd
denominator keeps a distance from the halves where the whole number changes.
As long as the first rounding stays within that distance the count is the
whole number nearest to the exact quotient.
-/

namespace Preflight.TokenCount

open Binary64

/-! ## Whole numbers -/

/-- Halves are rounded up, and what is too great for a count is cut off. -/
theorem cast_roundToCount (units : Nat) :
    (roundToCount units : ℤ) =
      min (maxCount : ℤ) (round ((units : ℚ) / unitsPerOne)) := by
  have positive := cast_unitsPerOne_pos
  obtain ⟨half, even⟩ : ∃ half, unitsPerOne = 2 * half := by
    obtain ⟨places, ⟨wide, _⟩, one⟩ := exists_unitsPerOne_eq
    obtain ⟨fewer, rfl⟩ := Nat.exists_eq_add_of_le' wide
    exact ⟨2 ^ (fewer + 51), one.trans Nat.pow_succ'⟩
  have halves :
      (units : ℚ) / unitsPerOne + 1 / 2 =
        ((units + unitsPerOne / 2 : Nat) : ℚ) / unitsPerOne := by
    rw [even, Nat.mul_div_cancel_left half Nat.two_pos]
    rw [even] at positive
    push_cast at positive ⊢
    have halfPositive : (0 : ℚ) < half := by linarith
    field_simp
  rw [roundToCount, Nat.cast_min, round_eq, halves,
    Rat.floor_natCast_div_natCast, Int.natCast_div]

/-- The whole number nearest to a quotient, halves going up. -/
def nearestWhole (numerator denominator : Nat) : Nat :=
  (2 * numerator + denominator) / (2 * denominator)

section Odd

variable {denominator : Nat} (odd : denominator % 2 = 1)

include odd

/-- A quotient with an odd denominator is never half way between two whole
numbers: one part in twice the denominator is left to the half. -/
theorem abs_nearestWhole_sub_le (numerator : Nat) :
    |(nearestWhole numerator denominator : ℚ) - numerator / denominator| ≤
      1 / 2 - 1 / (2 * denominator) := by
  have positive : 0 < denominator := by omega
  have parts :=
    Nat.div_add_mod (2 * numerator + denominator) (2 * denominator)
  have small :=
    Nat.mod_lt (2 * numerator + denominator) (Nat.mul_pos Nat.two_pos positive)
  rw [← nearestWhole, Nat.mul_assoc] at parts
  generalize nearestWhole numerator denominator = whole at parts ⊢
  generalize (2 * numerator + denominator) % (2 * denominator) = left
    at parts small
  -- What is left is odd, so it is neither nothing nor all of the divisor.
  have something : 1 ≤ left := by omega
  have notAll : left + 1 ≤ 2 * denominator := by omega
  have positiveCast : (0 : ℚ) < denominator := Nat.cast_pos.2 positive
  have partsCast :
      2 * ((denominator : ℚ) * whole) + left = 2 * numerator + denominator := by
    exact_mod_cast parts
  have somethingCast : (1 : ℚ) ≤ left := by exact_mod_cast something
  have notAllCast : (left : ℚ) + 1 ≤ 2 * denominator := by
    exact_mod_cast notAll
  have difference :
      (whole : ℚ) - numerator / denominator =
        (denominator - left) / (2 * denominator) := by
    field_simp
    linarith
  have bound :
      (1 : ℚ) / 2 - 1 / (2 * denominator) =
        (denominator - 1) / (2 * denominator) := by
    field_simp
  have divisor : (0 : ℚ) < 2 * denominator := by positivity
  rw [difference, bound, abs_div, abs_of_pos divisor]
  apply div_le_div_of_nonneg_right _ divisor.le
  rw [abs_le]
  constructor
  · linarith
  · linarith

/-- A number within one part in twice the denominator of a quotient is rounded
to the same whole number as the quotient. -/
theorem round_eq_nearestWhole {numerator : Nat} {value : ℚ}
    (near : |value - numerator / denominator| < 1 / (2 * denominator)) :
    round value = nearestWhole numerator denominator := by
  have distance := abs_nearestWhole_sub_le odd numerator
  rw [abs_le] at distance
  rw [abs_lt] at near
  rw [round_eq_iff, Set.mem_Ico, Int.cast_natCast]
  constructor
  · linarith
  · linarith

/-- No other whole number is as near to a quotient with an odd denominator. -/
theorem abs_nearestWhole_sub_lt {numerator : Nat} {other : ℤ}
    (different : other ≠ nearestWhole numerator denominator) :
    |(nearestWhole numerator denominator : ℚ) - numerator / denominator| <
      |(other : ℚ) - numerator / denominator| := by
  have positive : (0 : ℚ) < denominator := Nat.cast_pos.2 (by omega)
  have part : (0 : ℚ) < 1 / (2 * denominator) := by positivity
  have distance := abs_nearestWhole_sub_le odd numerator
  have apart :
      (1 : ℚ) ≤ |(other : ℚ) - nearestWhole numerator denominator| := by
    exact_mod_cast Int.one_le_abs (sub_ne_zero.2 different)
  have triangle :=
    abs_sub_le (other : ℚ) (numerator / denominator)
      (nearestWhole numerator denominator)
  rw [abs_sub_comm (numerator / denominator : ℚ)] at triangle
  linarith

end Odd

/-! ## Quotients -/

section Quotient

variable {tokens : Nat} {ratio : Binary64} (positive : ratio.isPositive = true)

include positive

theorem comparative_eq_roundToCount (tokens : Nat) :
    comparative tokens ratio =
      roundToCount (quotientUnits (unitsOfNat tokens) ratio.units) := by
  obtain ⟨finite, above⟩ := isPositive_iff.1 positive
  obtain ⟨sign, nonzero⟩ := toRat_pos_iff.1 above
  simp only [comparative, sign, finite, nonzero, Bool.not_true, Bool.or_self,
    Bool.false_eq_true, if_false, quotientUnits]

/-- The count is the quotient of numbers, rounded to a whole number. -/
theorem cast_comparative (small : tokens ≤ 2 ^ 64)
    (inRange : (ofWord tokens).toRat / ratio.toRat < overflowBound) :
    (comparative tokens ratio : ℤ) =
      min (maxCount : ℤ) (round (quotient (ofWord tokens) ratio).toRat) := by
  rw [toRat_quotient (isNegative_ofWord small) positive inRange,
    units_ofWord small, comparative_eq_roundToCount positive,
    cast_roundToCount]

section Short

variable (short : tokens ≤ 2 ^ 53)
  (inRange : (tokens : ℚ) / ratio.toRat < overflowBound)
  {numerator denominator : Nat} (odd : denominator % 2 = 1)
  (near :
    (tokens : ℚ) / ratio.toRat / 2 ^ 53 + 1 / unitsPerOne +
        |(tokens : ℚ) / ratio.toRat - numerator / denominator| <
      1 / (2 * denominator))

include short inRange odd near

/-- The quotient may be off by its rounding and by what the ratio is off. -/
theorem round_quotient :
    round (quotient (ofWord tokens) ratio).toRat =
      nearestWhole numerator denominator := by
  have small : tokens ≤ 2 ^ 64 := Nat.le_trans short (by decide)
  rw [← toRat_ofWord short] at inRange
  have distance :=
    abs_quotient_sub_le (isNegative_ofWord small) positive inRange
  rw [toRat_ofWord short] at distance
  apply round_eq_nearestWhole odd
  calc |(quotient (ofWord tokens) ratio).toRat - numerator / denominator|
      ≤ |(quotient (ofWord tokens) ratio).toRat - tokens / ratio.toRat| +
          |(tokens : ℚ) / ratio.toRat - numerator / denominator| :=
        abs_sub_le _ _ _
    _ ≤ (tokens : ℚ) / ratio.toRat / 2 ^ 53 + 1 / unitsPerOne +
          |(tokens : ℚ) / ratio.toRat - numerator / denominator| :=
        add_le_add_left distance _
    _ < 1 / (2 * denominator) := near

theorem comparative_eq_nearestWhole
    (counted : nearestWhole numerator denominator ≤ maxCount) :
    comparative tokens ratio = nearestWhole numerator denominator := by
  have small : tokens ≤ 2 ^ 64 := Nat.le_trans short (by decide)
  have rounded := round_quotient positive short inRange odd near
  rw [← toRat_ofWord short] at inRange
  have count := cast_comparative positive small inRange
  rw [rounded, ← Nat.cast_min, Nat.min_eq_right counted] at count
  exact_mod_cast count

end Short

end Quotient

/-! ## The ratio of the default settings -/

/-- The ratio of the default settings. -/
def standardRatio : Binary64 := ({} : Settings).comparativeTokenRatio

theorem isPositive_standardRatio : standardRatio.isPositive = true := by
  decide

/-- The value of the ratio, in lowest terms. -/
theorem toRat_standardRatio :
    standardRatio.toRat = 5584463537939415 / 2 ^ 53 := by
  have sign : standardRatio.isNegative = false := by decide
  have magnitude :
      standardRatio.units = 5584463537939415 * Nat.pow 2 1021 := by
    decide +kernel
  have places : 1074 = 53 + 1021 := by decide
  rw [toRat_of_not_isNegative sign, magnitude, cast_unitsPerOne, places]
  generalize 1021 = exponent
  have power : ((Nat.pow 2 exponent : Nat) : ℚ) = 2 ^ exponent :=
    Nat.cast_pow 2 exponent
  rw [pow_add, Nat.cast_mul, power, Nat.cast_ofNat]
  exact mul_div_mul_right _ _ (pow_pos two_pos exponent).ne'

theorem isNearestTo_standardRatio : standardRatio.IsNearestTo (62 / 100) := by
  have read : ofDecimal? false 62 (-2) = some standardRatio := by
    decide +kernel
  have value : signed false ((62 : Nat) * 10 ^ (-2 : ℤ)) = 62 / 100 := by
    rw [signed_false]
    norm_num
  rw [← value]
  exact (ofDecimal?_eq_some read).2

section Standard

variable {tokens : Nat} (few : tokens ≤ 2 ^ 45)

include few

theorem div_standardRatio_le : (tokens : ℚ) / standardRatio.toRat ≤ 2 ^ 46 := by
  have cast : (tokens : ℚ) ≤ 2 ^ 45 := by exact_mod_cast few
  rw [toRat_standardRatio, div_le_iff₀ (by norm_num)]
  linarith

theorem abs_div_standardRatio_sub_le :
    |(tokens : ℚ) / standardRatio.toRat - (50 * tokens : Nat) / (31 : Nat)| ≤
      1 / 2 ^ 11 := by
  have cast : (tokens : ℚ) ≤ 2 ^ 45 := by exact_mod_cast few
  have difference :
      (tokens : ℚ) / standardRatio.toRat - (50 * tokens : Nat) / (31 : Nat) =
        tokens * (2 / (31 * 5584463537939415)) := by
    rw [toRat_standardRatio]
    push_cast
    ring
  rw [difference, abs_of_nonneg (by positivity)]
  linarith

theorem standard_quotient_near :
    (tokens : ℚ) / standardRatio.toRat / 2 ^ 53 + 1 / unitsPerOne +
        |(tokens : ℚ) / standardRatio.toRat - (50 * tokens : Nat) / (31 : Nat)| <
      1 / (2 * (31 : Nat)) := by
  have rounding := div_standardRatio_le few
  have conversion := abs_div_standardRatio_sub_le few
  have unit : (1 : ℚ) / unitsPerOne ≤ 1 / 2 ^ 52 := by
    apply one_div_le_one_div_of_le (by positivity)
    exact_mod_cast two_pow_le_unitsPerOne
  have denominators : (1 : ℚ) / 62 = 1 / (2 * (31 : Nat)) := by norm_num
  rw [← denominators]
  linarith

theorem standard_quotient_inRange :
    (tokens : ℚ) / standardRatio.toRat < overflowBound :=
  (div_standardRatio_le few).trans_lt (two_pow_lt_overflowBound (by decide))

theorem standard_nearestWhole :
    comparative tokens standardRatio = nearestWhole (50 * tokens) 31 ∧
      round (quotient (ofWord tokens) standardRatio).toRat =
        nearestWhole (50 * tokens) 31 := by
  have odd : 31 % 2 = 1 := by decide
  have short : tokens ≤ 2 ^ 53 := Nat.le_trans few (by decide)
  have inRange := standard_quotient_inRange few
  have near := standard_quotient_near few
  have counted : nearestWhole (50 * tokens) 31 ≤ maxCount := by
    unfold nearestWhole maxCount
    omega
  exact
    ⟨comparative_eq_nearestWhole isPositive_standardRatio short inRange odd
        near counted,
      round_quotient isPositive_standardRatio short inRange odd near⟩

theorem isNearestTo_standard_quotient :
    (quotient (ofWord tokens) standardRatio).IsNearestTo
      ((ofWord tokens).toRat / standardRatio.toRat) := by
  have short : tokens ≤ 2 ^ 53 := Nat.le_trans few (by decide)
  have small : tokens ≤ 2 ^ 64 := Nat.le_trans short (by decide)
  apply
    isNearestTo_quotient (isNegative_ofWord small) isPositive_standardRatio
  rw [toRat_ofWord short]
  exact standard_quotient_inRange few

end Standard

/-- The ratio of the default settings is not 0.62 but the number nearest to it,
and the tokens and the quotient are rounded to the numbers nearest to them
before the quotient is rounded to a whole number. For up to `2 ^ 45` tokens the
count is still the one whole number nearest to the exact quotient by 0.62, and
so it is in every analysis with this ratio. -/
theorem comparative_is_exact_rounding :
    (standardRatio.bits = 0x3fe3d70a3d70a3d7 ∧
        standardRatio.toRat = 5584463537939415 / 2 ^ 53 ∧
        standardRatio.IsNearestTo (62 / 100)) ∧
      (∀ tokens : ℕ, tokens ≤ 2 ^ 45 →
        (∃ dividend quotient : Binary64,
            dividend.IsNearestTo tokens ∧
              quotient.IsNearestTo (dividend.toRat / standardRatio.toRat) ∧
              comparative tokens standardRatio = round quotient.toRat) ∧
          comparative tokens standardRatio = (100 * tokens + 31) / 62 ∧
          ∀ other : ℤ, other ≠ comparative tokens standardRatio →
            |(comparative tokens standardRatio : ℚ) - 50 * tokens / 31| <
              |(other : ℚ) - 50 * tokens / 31|) ∧
      ∀ (analyzer : Analyzer) (text : List Char),
        analyzer.settings.comparativeTokenRatio = standardRatio →
          (analyzer.analyze text).estimatedTokenCount ≤ 2 ^ 45 →
            (analyzer.analyze text).comparativeTokenCount =
              (100 * (analyzer.analyze text).estimatedTokenCount + 31) / 62 := by
  have formula (tokens : ℕ) :
      nearestWhole (50 * tokens) 31 = (100 * tokens + 31) / 62 := by
    unfold nearestWhole
    omega
  refine
    ⟨⟨rfl, toRat_standardRatio, isNearestTo_standardRatio⟩, ?_, ?_⟩
  · intro tokens few
    obtain ⟨count, rounded⟩ := standard_nearestWhole few
    refine ⟨?_, ?_, ?_⟩
    · have small : tokens ≤ 2 ^ 64 := Nat.le_trans few (by decide)
      refine
        ⟨ofWord tokens, quotient (ofWord tokens) standardRatio,
          isNearestTo_ofWord small, isNearestTo_standard_quotient few, ?_⟩
      rw [count, rounded]
    · rw [count, formula]
    · intro other different
      rw [count] at different ⊢
      have nearest :=
        abs_nearestWhole_sub_lt (by decide : 31 % 2 = 1) different
      push_cast at nearest
      exact nearest
  · intro analyzer text standard few
    rw [analyzer.analyze_eq] at few ⊢
    rw [standard, (standard_nearestWhole few).1, formula]

/-- A great number of tokens whose exact quotient lies next to a half. -/
theorem comparative_is_exact_rounding_next_to_half :
    35184372088822 ≤ 2 ^ 45 ∧
      comparative 35184372088822 standardRatio = 56748987240035 ∧
      |(56748987240035 : ℚ) - 50 * 35184372088822 / 31| <
        |(56748987240036 : ℚ) - 50 * 35184372088822 / 31| ∧
      Analyzer.standard.settings.comparativeTokenRatio = standardRatio ∧
      (Analyzer.standard.analyze (List.replicate 40 'x')).estimatedTokenCount =
        10 ∧
      (Analyzer.standard.analyze
          (List.replicate 40 'x')).comparativeTokenCount = 16 := by
  rcases comparative_is_exact_rounding with ⟨_, counts, analyses⟩
  have few : 35184372088822 ≤ 2 ^ 45 := by decide
  obtain ⟨_, formula, nearest⟩ := counts 35184372088822 few
  have count : comparative 35184372088822 standardRatio = 56748987240035 :=
    formula
  have further := nearest 56748987240036 (by rw [count]; decide)
  rw [count] at further
  push_cast at further
  have standard :
      Analyzer.standard.settings.comparativeTokenRatio = standardRatio := rfl
  have estimated :
      (Analyzer.standard.analyze
          (List.replicate 40 'x')).estimatedTokenCount = 10 := by
    rw [Analyzer.analyze_eq]
    rfl
  have analysis :=
    analyses Analyzer.standard (List.replicate 40 'x') standard
      (by rw [estimated]; decide)
  rw [estimated] at analysis
  exact ⟨few, count, further, standard, estimated, analysis⟩

/-- From `2 ^ 47` on a quotient has too few bits left for its fraction. -/
example :
    comparative 87257242780308 standardRatio = 140737488355336 ∧
      (100 * 87257242780308 + 31) / 62 = 140737488355335 := by
  decide +kernel

end Preflight.TokenCount
