import Mathlib.Tactic.Positivity
import Preflight.Proofs.Binary64.Encoding

/-!
# How near rounding stays

Rounding changes a magnitude by one part in `2 ^ 53` at most, and the least
magnitudes by half a unit. Steps that stay near can be put one behind the
other: their factors multiply and their slack adds up.
-/

namespace Preflight.Binary64

/-- The greatest factor between a magnitude and what it is rounded to, where
magnitudes have all their bits. -/
def stepFactor : ℚ := 1 + 1 / 2 ^ 53

theorem one_le_stepFactor_pow (steps : Nat) : 1 ≤ stepFactor ^ steps := by
  apply one_le_pow₀
  unfold stepFactor
  norm_num

theorem stepFactor_pow_pos (steps : Nat) : 0 < stepFactor ^ steps :=
  lt_of_lt_of_le one_pos (one_le_stepFactor_pow steps)

/-- Two magnitudes that are equal up to the factors of some steps and up to some
slack. -/
structure Near (steps : Nat) (slack first second : ℚ) : Prop where
  first_le : first ≤ stepFactor ^ steps * (second + slack)
  second_le : second ≤ stepFactor ^ steps * (first + slack)

namespace Near

section Steps

variable {steps moreSteps : Nat}
  {slack moreSlack first second third fourth : ℚ}

theorem symm (near : Near steps slack first second) :
    Near steps slack second first :=
  ⟨near.second_le, near.first_le⟩

theorem of_eq (value : ℚ) : Near 0 0 value value := by
  constructor
  all_goals rw [pow_zero, one_mul, add_zero]

theorem weaken (near : Near steps slack first second)
    (nonnegative : 0 ≤ first) (secondNonnegative : 0 ≤ second)
    (slackNonnegative : 0 ≤ slack) (more : steps ≤ moreSteps)
    (wider : slack ≤ moreSlack) : Near moreSteps moreSlack first second := by
  have factors : stepFactor ^ steps ≤ stepFactor ^ moreSteps := by
    apply pow_le_pow_right₀ _ more
    simpa using one_le_stepFactor_pow 1
  have grown {value : ℚ} (valueNonnegative : 0 ≤ value) :
      stepFactor ^ steps * (value + slack) ≤
        stepFactor ^ moreSteps * (value + moreSlack) := by
    apply mul_le_mul factors (by linarith) (by linarith)
    exact (stepFactor_pow_pos moreSteps).le
  exact ⟨near.first_le.trans (grown secondNonnegative),
    near.second_le.trans (grown nonnegative)⟩

theorem trans (near : Near steps slack first second)
    (nearNext : Near moreSteps moreSlack second third)
    (nonnegative : 0 ≤ slack) (moreNonnegative : 0 ≤ moreSlack) :
    Near (steps + moreSteps) (slack + moreSlack) first third := by
  have chained {steps moreSteps : Nat} {slack moreSlack first second third : ℚ}
      (nonnegative : 0 ≤ slack)
      (bound : first ≤ stepFactor ^ steps * (second + slack))
      (boundNext : second ≤ stepFactor ^ moreSteps * (third + moreSlack)) :
      first ≤
        stepFactor ^ (steps + moreSteps) * (third + (slack + moreSlack)) := by
    have factor := stepFactor_pow_pos steps
    have factorNext := one_le_stepFactor_pow moreSteps
    have absorbed : slack ≤ stepFactor ^ moreSteps * slack :=
      le_mul_of_one_le_left nonnegative factorNext
    calc first
        ≤ stepFactor ^ steps * (second + slack) := bound
      _ ≤ stepFactor ^ steps *
            (stepFactor ^ moreSteps * (third + (slack + moreSlack))) := by
          apply mul_le_mul_of_nonneg_left _ factor.le
          linarith
      _ = stepFactor ^ (steps + moreSteps) *
            (third + (slack + moreSlack)) := by
          rw [pow_add, mul_assoc]
  constructor
  · exact chained nonnegative near.first_le nearNext.first_le
  · rw [Nat.add_comm, add_comm slack]
    exact chained moreNonnegative nearNext.second_le near.second_le

/-- Both sides may be multiplied by the same number. -/
theorem mul_right (near : Near steps slack first second) {factor : ℚ}
    (nonnegative : 0 ≤ factor) :
    Near steps (slack * factor) (first * factor) (second * factor) := by
  have scaled {left right : ℚ}
      (bound : left ≤ stepFactor ^ steps * (right + slack)) :
      left * factor ≤ stepFactor ^ steps * (right * factor + slack * factor) := by
    rw [← add_mul, ← mul_assoc]
    exact mul_le_mul_of_nonneg_right bound nonnegative
  exact ⟨scaled near.first_le, scaled near.second_le⟩

theorem mul (near : Near steps 0 first second)
    (nearOther : Near moreSteps 0 third fourth) (firstNonnegative : 0 ≤ first)
    (secondNonnegative : 0 ≤ second) (thirdNonnegative : 0 ≤ third)
    (fourthNonnegative : 0 ≤ fourth) :
    Near (steps + moreSteps) 0 (first * third) (second * fourth) := by
  have multiplied {first second third fourth : ℚ} (nonnegative : 0 ≤ second)
      (otherNonnegative : 0 ≤ third)
      (bound : first ≤ stepFactor ^ steps * (second + 0))
      (boundOther : third ≤ stepFactor ^ moreSteps * (fourth + 0)) :
      first * third ≤
        stepFactor ^ (steps + moreSteps) * (second * fourth + 0) := by
    rw [add_zero] at bound boundOther ⊢
    have upper :=
      mul_le_mul bound boundOther otherNonnegative
        (mul_nonneg (stepFactor_pow_pos steps).le nonnegative)
    rwa [mul_mul_mul_comm, ← pow_add] at upper
  exact
    ⟨multiplied secondNonnegative thirdNonnegative near.first_le
        nearOther.first_le,
      multiplied firstNonnegative fourthNonnegative near.second_le
        nearOther.second_le⟩

/-- Near numbers are apart by a part of the first and a little more than the
slack. -/
theorem abs_sub_le (near : Near steps slack first second) {part : ℚ}
    (factor : stepFactor ^ steps ≤ 1 + part) (nonnegative : 0 ≤ first)
    (secondNonnegative : 0 ≤ second) (slackNonnegative : 0 ≤ slack) :
    |second - first| ≤ first * part + (1 + part) * slack := by
  have partNonnegative : 0 ≤ part := by
    have large := one_le_stepFactor_pow steps
    linarith
  have bounded {left right : ℚ} (rightNonnegative : 0 ≤ right)
      (bound : left ≤ stepFactor ^ steps * (right + slack)) :
      left ≤ (1 + part) * (right + slack) :=
    bound.trans (mul_le_mul_of_nonneg_right factor (by linarith))
  have upper := bounded nonnegative near.second_le
  have lower := bounded secondNonnegative near.first_le
  rw [abs_sub_le_iff]
  constructor
  · linarith
  · rcases le_total first second with smaller | larger
    · have bound : 0 ≤ first * part + (1 + part) * slack := by positivity
      linarith
    · have scaled := mul_le_mul_of_nonneg_right larger partNonnegative
      linarith

/-- Division by numbers that are not below one keeps the slack. -/
theorem div (near : Near steps slack first second)
    (nearOther : Near moreSteps 0 third fourth) (firstNonnegative : 0 ≤ first)
    (secondNonnegative : 0 ≤ second) (nonnegative : 0 ≤ slack)
    (large : 1 ≤ third) (otherLarge : 1 ≤ fourth) :
    Near (steps + moreSteps) slack (first / third) (second / fourth) := by
  have divided {first second third fourth : ℚ} (secondNonnegative : 0 ≤ second)
      (large : 1 ≤ third) (otherLarge : 1 ≤ fourth)
      (bound : first ≤ stepFactor ^ steps * (second + slack))
      (boundOther : fourth ≤ stepFactor ^ moreSteps * (third + 0)) :
      first / third ≤
        stepFactor ^ (steps + moreSteps) * (second / fourth + slack) := by
    have positive : 0 < third := one_pos.trans_le large
    have otherPositive : 0 < fourth := one_pos.trans_le otherLarge
    have factor := stepFactor_pow_pos steps
    have factorOther := stepFactor_pow_pos moreSteps
    rw [add_zero] at boundOther
    have inverse : 1 / third ≤ stepFactor ^ moreSteps * (1 / fourth) := by
      rw [mul_one_div, div_le_div_iff₀ positive otherPositive, one_mul]
      exact boundOther
    have slackKept : slack * (1 / fourth) ≤ slack :=
      mul_le_of_le_one_right nonnegative
        ((div_le_one₀ otherPositive).2 otherLarge)
    calc first / third
        = first * (1 / third) := div_eq_mul_one_div first third
      _ ≤ stepFactor ^ steps * (second + slack) * (1 / third) :=
          mul_le_mul_of_nonneg_right bound (by positivity)
      _ ≤ stepFactor ^ steps * (second + slack) *
            (stepFactor ^ moreSteps * (1 / fourth)) := by
          apply mul_le_mul_of_nonneg_left inverse
          exact mul_nonneg factor.le (by linarith)
      _ = stepFactor ^ (steps + moreSteps) *
            (second / fourth + slack * (1 / fourth)) := by
          rw [pow_add, div_eq_mul_one_div second fourth]
          ring
      _ ≤ stepFactor ^ (steps + moreSteps) * (second / fourth + slack) := by
          apply mul_le_mul_of_nonneg_left _ (stepFactor_pow_pos _).le
          linarith
  exact
    ⟨divided secondNonnegative large otherLarge near.first_le
        nearOther.second_le,
      divided firstNonnegative otherLarge large near.second_le
        nearOther.first_le⟩

end Steps

/-- Numbers are near when their distance is a small part of both. -/
theorem of_abs_sub_le {first second : ℚ}
    (first_le : |first - second| ≤ second / 2 ^ 53)
    (second_le : |first - second| ≤ first / 2 ^ 53) :
    Near 1 0 first second := by
  have above := (abs_sub_le_iff.1 first_le).1
  have below := (abs_sub_le_iff.1 second_le).2
  constructor
  · rw [pow_one, add_zero, stepFactor, add_mul, one_mul, one_div_mul_eq_div]
    linarith
  · rw [pow_one, add_zero, stepFactor, add_mul, one_mul, one_div_mul_eq_div]
    linarith

/-- Numbers between two neighbours far from zero are near. -/
theorem of_between {whole : Nat} {place first second : ℚ}
    (far : 2 ^ 53 ≤ whole) (positive : 0 ≤ place)
    (lower : whole * place ≤ first) (upper : first ≤ (whole + 1) * place)
    (lowerOther : whole * place ≤ second)
    (upperOther : second ≤ (whole + 1) * place) : Near 1 0 first second := by
  have farCast : ((2 ^ 53 : Nat) : ℚ) ≤ whole := Nat.cast_le.2 far
  push_cast at farCast
  have apart : |first - second| ≤ place := by
    rw [abs_sub_le_iff]
    constructor
    · linarith
    · linarith
  have small : place ≤ whole * place / 2 ^ 53 := by
    rw [le_div_iff₀ (by positivity), mul_comm]
    exact mul_le_mul_of_nonneg_right farCast positive
  have smaller {value : ℚ} (large : whole * place ≤ value) :
      whole * place / 2 ^ 53 ≤ value / 2 ^ 53 :=
    div_le_div_of_nonneg_right large (by positivity)
  exact
    of_abs_sub_le (apart.trans (small.trans (smaller lowerOther)))
      (apart.trans (small.trans (smaller lower)))

end Near

/-! ## One rounding -/

theorem IsNearest.abs_sub_le_half {exact : ℚ} {n whole : Nat}
    (nearest : IsNearest exact n) (below : (whole : ℚ) ≤ exact)
    (above : exact < whole + 1) : |(n : ℚ) - exact| ≤ 1 / 2 := by
  have toFloor := nearest.nearest whole
  have toCeiling := nearest.nearest (whole + 1)
  rw [abs_sub_of_le below (Nat.le_refl whole)] at toFloor
  rw [abs_sub_of_lt above (Nat.le_refl (whole + 1))] at toCeiling
  push_cast at toCeiling
  linarith

section Quotient

variable (numerator : Nat) {denominator : Nat} (positive : 0 < denominator)

include positive

theorem div_bounds :
    ((numerator / denominator : Nat) : ℚ) ≤ (numerator : ℚ) / denominator ∧
      (numerator : ℚ) / denominator < (numerator / denominator : Nat) + 1 := by
  refine ⟨Nat.cast_div_le, ?_⟩
  have positiveCast : (0 : ℚ) < denominator := Nat.cast_pos.2 positive
  rw [div_lt_iff₀ positiveCast]
  exact_mod_cast Nat.lt_mul_of_div_lt (Nat.lt_succ_self _) positive

/-- A quotient is rounded by half a gap at most. -/
theorem abs_roundUnits_sub_le :
    |(roundUnits numerator denominator : ℚ) - numerator / denominator| ≤
      2 ^ gapExponent (numerator / denominator) / 2 := by
  have powers (exponent : Nat) : Nat.pow 2 exponent = 2 ^ exponent := rfl
  simp only [roundUnits, powers]
  generalize gapExponent (numerator / denominator) = gap
  have positiveScaled : 0 < denominator * 2 ^ gap :=
    Nat.mul_pos positive (Nat.two_pow_pos gap)
  have nearest := isNearest_nearestEven numerator positiveScaled
  obtain ⟨below, above⟩ := div_bounds numerator positiveScaled
  have half := nearest.abs_sub_le_half below above
  rw [abs_mul_two_pow_sub, div_div]
  push_cast at half
  calc |(nearestEven numerator (denominator * 2 ^ gap) : ℚ) -
          numerator / (denominator * 2 ^ gap)| * 2 ^ gap
      ≤ 1 / 2 * 2 ^ gap :=
        mul_le_mul_of_nonneg_right half (by positivity)
    _ = 2 ^ gap / 2 := by ring

/-- A quotient with all its bits is rounded to a magnitude near it. -/
theorem near_roundUnits (large : 2 ^ 52 ≤ numerator / denominator) :
    Near 1 0 ((numerator : ℚ) / denominator)
      (roundUnits numerator denominator) := by
  have distance := abs_roundUnits_sub_le numerator positive
  have bounds := two_pow_gapExponent_le_of_large large
  have roundedBounds :
      2 ^ (52 + gapExponent (numerator / denominator)) ≤
        roundUnits numerator denominator := by
    have powers (exponent : Nat) : Nat.pow 2 exponent = 2 ^ exponent := rfl
    simp only [roundUnits, powers]
    generalize gapExponent (numerator / denominator) = gap at bounds
    have wide : 2 ^ 52 ≤ nearestEven numerator (denominator * 2 ^ gap) := by
      apply Nat.le_trans _ (le_nearestEven _ _)
      rw [← Nat.div_div_eq_div_mul, Nat.le_div_iff_mul_le (Nat.two_pow_pos gap),
        ← Nat.pow_add]
      exact bounds
    rw [Nat.pow_add]
    exact Nat.mul_le_mul_right _ wide
  obtain ⟨below, _⟩ := div_bounds numerator positive
  generalize gapExponent (numerator / denominator) = gap
    at distance bounds roundedBounds
  have exactLarge : (2 : ℚ) ^ (52 + gap) ≤ (numerator : ℚ) / denominator := by
    have cast : ((2 ^ (52 + gap) : Nat) : ℚ) ≤ (numerator / denominator : Nat) :=
      Nat.cast_le.2 bounds
    push_cast at cast
    exact cast.trans below
  have roundedLarge :
      (2 : ℚ) ^ (52 + gap) ≤ roundUnits numerator denominator := by
    exact_mod_cast roundedBounds
  have half : (2 : ℚ) ^ gap / 2 = 2 ^ (52 + gap) / 2 ^ 53 := by
    rw [pow_add]
    ring
  have smaller {value : ℚ} (large : 2 ^ (52 + gap) ≤ value) :
      (2 : ℚ) ^ gap / 2 ≤ value / 2 ^ 53 := by
    rw [half]
    exact div_le_div_of_nonneg_right large (by positivity)
  apply Near.symm
  exact
    Near.of_abs_sub_le (distance.trans (smaller exactLarge))
      (distance.trans (smaller roundedLarge))

/-- Every quotient is rounded to a magnitude near it, up to half a unit. -/
theorem near_roundUnits_half :
    Near 1 (1 / 2) ((numerator : ℚ) / denominator)
      (roundUnits numerator denominator) := by
  have quotientNonnegative : (0 : ℚ) ≤ (numerator : ℚ) / denominator :=
    div_nonneg (Nat.cast_nonneg numerator) (Nat.cast_nonneg denominator)
  have roundedNonnegative : (0 : ℚ) ≤ roundUnits numerator denominator :=
    Nat.cast_nonneg _
  rcases Nat.lt_or_ge (numerator / denominator) (2 ^ 52) with small | large
  · have unitGap : gapExponent (numerator / denominator) = 0 := by
      by_contra wide
      have bound := two_pow_le_of_gapExponent_pos (Nat.pos_of_ne_zero wide)
      have power :
          2 ^ 52 ≤ 2 ^ (52 + gapExponent (numerator / denominator)) :=
        Nat.pow_le_pow_right Nat.two_pos (Nat.le_add_right _ _)
      omega
    have distance := abs_roundUnits_sub_le numerator positive
    rw [unitGap, pow_zero, abs_sub_le_iff] at distance
    have exactly :
        Near 0 (1 / 2) ((numerator : ℚ) / denominator)
          (roundUnits numerator denominator) := by
      constructor
      · rw [pow_zero, one_mul]
        linarith
      · rw [pow_zero, one_mul]
        linarith
    exact
      exactly.weaken quotientNonnegative roundedNonnegative (by norm_num)
        (Nat.zero_le 1) (le_refl _)
  · exact
      (near_roundUnits numerator positive large).weaken quotientNonnegative
        roundedNonnegative (le_refl 0) (Nat.le_refl 1) (by norm_num)

end Quotient

end Preflight.Binary64
