import Preflight.Proofs.Binary64.Quotient
import Preflight.Proofs.Binary64.Word

/-!
# How near scaling stays

A word times a power of ten is read to within a few steps of rounding and one
unit. It is refused only if it comes near the overflow bound. A short word
times a small power of ten is rounded once.
-/

namespace Preflight.Binary64

/-! ## Powers -/

/-- A power of ten as it is rounded, in ones. -/
def roundedPower (exponent : Nat) : ℚ :=
  unitsOfPower exponent / unitsPerOne

theorem unitsPerOne_le_unitsOfPower (exponent : Nat) :
    unitsPerOne ≤ unitsOfPower exponent :=
  unitsPerOne_le_unitsOfNat (Nat.pow_pos (by decide)).ne'

theorem one_le_roundedPower (exponent : Nat) : 1 ≤ roundedPower exponent := by
  rw [roundedPower, le_div_iff₀ cast_unitsPerOne_pos, one_mul]
  exact Nat.cast_le.2 (unitsPerOne_le_unitsOfPower exponent)

theorem near_roundedPower (exponent : Nat) :
    Near 1 0 (10 ^ exponent) (roundedPower exponent) := by
  have inverse : (0 : ℚ) ≤ 1 / unitsPerOne :=
    one_div_nonneg.2 cast_unitsPerOne_pos.le
  have near := (near_unitsOfNat (Nat.pow 10 exponent)).mul_right inverse
  have power : ((Nat.pow 10 exponent : Nat) : ℚ) = 10 ^ exponent :=
    Nat.cast_pow 10 exponent
  rwa [zero_mul, mul_one_div, mul_one_div,
    mul_div_cancel_right₀ _ cast_unitsPerOne_pos.ne', power] at near

/-! ## Products -/

theorem roundsTo_productUnits (units exponent : Nat) :
    RoundsTo ((units : ℚ) * roundedPower exponent)
      (productUnits units (unitsOfPower exponent)) := by
  have rounded :=
    roundsTo_roundUnits (units * unitsOfPower exponent) unitsPerOne_pos
  rwa [Nat.cast_mul, mul_div_assoc] at rounded

theorem near_word_mul_roundedPower (word exponent : Nat) :
    Near 2 0 ((word : ℚ) * 10 ^ exponent * unitsPerOne)
      ((unitsOfNat word : ℚ) * roundedPower exponent) := by
  have power : (0 : ℚ) ≤ 10 ^ exponent := by positivity
  have near :=
    (near_unitsOfNat word).mul (near_roundedPower exponent)
      (mul_nonneg (Nat.cast_nonneg word) cast_unitsPerOne_pos.le)
      (Nat.cast_nonneg _) power
      (zero_le_one.trans (one_le_roundedPower exponent))
  rwa [mul_right_comm] at near

theorem near_productUnits (word exponent : Nat) :
    Near 3 0 ((word : ℚ) * 10 ^ exponent * unitsPerOne)
      (productUnits (unitsOfNat word) (unitsOfPower exponent)) := by
  have nearExact := near_word_mul_roundedPower word exponent
  by_cases zero : word = 0
  · have nothing :
        productUnits (unitsOfNat word) (unitsOfPower exponent) = 0 := by
      apply (roundsTo_productUnits _ exponent).eq_point onGrid_zero
      rw [zero, unitsOfNat_zero, Nat.cast_zero, zero_mul]
    have same := Near.of_eq 0
    rw [nothing, zero, Nat.cast_zero, zero_mul, zero_mul]
    exact same.weaken (le_refl 0) (le_refl 0) (le_refl 0) (Nat.zero_le 3)
      (le_refl 0)
  · have large :
        2 ^ 52 ≤
          unitsOfNat word * unitsOfPower exponent / unitsPerOne := by
      rw [Nat.le_div_iff_mul_le unitsPerOne_pos]
      exact Nat.mul_le_mul
        (Nat.le_trans two_pow_le_unitsPerOne (unitsPerOne_le_unitsOfNat zero))
        (unitsPerOne_le_unitsOfPower exponent)
    have near := near_roundUnits _ unitsPerOne_pos large
    rw [Nat.cast_mul, mul_div_assoc] at near
    have together := nearExact.trans near (le_refl 0) (le_refl 0)
    rwa [add_zero] at together

/-- A product is refused when the product of the rounded factors reaches the
overflow bound. -/
theorem productUnits_lt_unitsLimit_iff (word exponent : Nat) :
    productUnits (unitsOfNat word) (unitsOfPower exponent) < unitsLimit ↔
      (unitsOfNat word : ℚ) * roundedPower exponent / unitsPerOne <
        overflowBound := by
  apply RoundsTo.lt_unitsLimit_iff
  rw [div_mul_cancel₀ _ cast_unitsPerOne_pos.ne']
  exact roundsTo_productUnits _ exponent

/-! ## Quotients -/

theorem unitsOfPower_pos (exponent : Nat) : 0 < unitsOfPower exponent :=
  Nat.lt_of_lt_of_le unitsPerOne_pos (unitsPerOne_le_unitsOfPower exponent)

theorem roundsTo_quotientUnits_unitsOfPower (units exponent : Nat) :
    RoundsTo ((units : ℚ) / roundedPower exponent)
      (quotientUnits units (unitsOfPower exponent)) :=
  roundsTo_quotientUnits units (unitsOfPower_pos exponent)

/-- A quotient lies on the same side of the grid as what is divided. -/
theorem quotientUnits_le {units bound : Nat} (small : units ≤ bound)
    (onGrid : OnGrid bound) (exponent : Nat) :
    quotientUnits units (unitsOfPower exponent) ≤ bound := by
  apply (roundsTo_quotientUnits_unitsOfPower units exponent).le_point onGrid
  have smallCast : (units : ℚ) ≤ bound := Nat.cast_le.2 small
  exact
    (div_le_self (Nat.cast_nonneg units) (one_le_roundedPower exponent)).trans
      smallCast

theorem quotientUnits_zero (exponent : Nat) :
    quotientUnits 0 (unitsOfPower exponent) = 0 :=
  Nat.le_zero.1 (quotientUnits_le (Nat.le_refl 0) onGrid_zero exponent)

/-- A division adds two steps and half a unit. -/
theorem near_quotientUnits_unitsOfPower {steps units : Nat}
    {slack exact : ℚ} (near : Near steps slack exact units)
    (nonnegative : 0 ≤ exact) (slackNonnegative : 0 ≤ slack)
    (exponent : Nat) :
    Near (steps + 2) (slack + 1 / 2) (exact / 10 ^ exponent)
      (quotientUnits units (unitsOfPower exponent)) := by
  have power : (1 : ℚ) ≤ 10 ^ exponent := one_le_pow₀ (by norm_num)
  have nearQuotient :=
    near.div (near_roundedPower exponent) nonnegative (Nat.cast_nonneg units)
      slackNonnegative power (one_le_roundedPower exponent)
  have nearRounded := near_quotientUnits units (unitsOfPower_pos exponent)
  exact nearQuotient.trans nearRounded slackNonnegative (by norm_num)

theorem divideByGreatest_zero (times : Nat) : divideByGreatest times 0 = 0 := by
  cases times with
  | zero => rfl
  | succ times => rfl

theorem divideByGreatest_succ (times units : Nat) :
    divideByGreatest (times + 1) units =
      divideByGreatest times
        (quotientUnits units (unitsOfPower greatestPower)) := by
  rw [divideByGreatest]
  split
  · rename_i zero
    rw [zero, quotientUnits_zero, divideByGreatest_zero]
  · rfl

theorem divideByGreatest_le {units bound : Nat} (small : units ≤ bound)
    (onGrid : OnGrid bound) (times : Nat) :
    divideByGreatest times units ≤ bound := by
  induction times generalizing units with
  | zero => exact small
  | succ times inductionHypothesis =>
      rw [divideByGreatest_succ]
      exact inductionHypothesis
        (quotientUnits_le small onGrid greatestPower)

theorem two_pow_le_roundedPower : 2 ^ 1023 ≤ roundedPower greatestPower := by
  have power : 2 ^ 1023 ≤ Nat.pow 10 greatestPower := by decide +kernel
  have point : 2 ^ 1023 * unitsPerOne ≤ unitsOfPower greatestPower := by
    apply (roundsTo_unitsOfNat _).point_le
      (onGrid_two_pow_mul_unitsPerOne 1023)
    rw [Nat.cast_mul]
    exact
      mul_le_mul_of_nonneg_right (Nat.cast_le.2 power)
        cast_unitsPerOne_pos.le
  have cast : ((2 ^ 1023 * unitsPerOne : Nat) : ℚ) ≤ unitsOfPower greatestPower :=
    Nat.cast_le.2 point
  rw [roundedPower, le_div_iff₀ cast_unitsPerOne_pos]
  rwa [Nat.cast_mul, Nat.cast_pow, Nat.cast_ofNat] at cast

/-! ## Words -/

section Word

variable {word : Nat} (small : word ≤ 2 ^ 64)

include small

/-- The greatest power, times a small magnitude, is beyond every word. -/
theorem unitsOfNat_le_mul : unitsOfNat word ≤ 2 ^ 115 * 2 ^ 1023 := by
  obtain ⟨places, ⟨_, few⟩, one⟩ := exists_unitsPerOne_eq
  have exponents : 64 + places ≤ 115 + 1023 := by omega
  apply Nat.le_trans (unitsOfNat_le small)
  generalize 1023 = exponent at exponents ⊢
  rw [one, ← Nat.pow_add, ← Nat.pow_add]
  exact Nat.pow_le_pow_right Nat.two_pos exponents

/-- Two divisions by the greatest power leave nothing of a word. -/
theorem divideByGreatest_eq_zero {times : Nat} (several : 2 ≤ times) :
    divideByGreatest times (unitsOfNat word) = 0 := by
  have wide := two_pow_le_roundedPower
  have positive : 0 < roundedPower greatestPower :=
    lt_of_lt_of_le one_pos (one_le_roundedPower greatestPower)
  have once :
      quotientUnits (unitsOfNat word) (unitsOfPower greatestPower) ≤
        2 ^ 115 := by
    apply (roundsTo_quotientUnits_unitsOfPower _ greatestPower).le_point
      (onGrid_two_pow 115)
    have cast : (unitsOfNat word : ℚ) ≤ (2 ^ 115 * 2 ^ 1023 : Nat) :=
      Nat.cast_le.2 (unitsOfNat_le_mul small)
    rw [Nat.cast_mul, Nat.cast_pow 2 1023, Nat.cast_ofNat] at cast
    rw [div_le_iff₀ positive]
    exact cast.trans (mul_le_mul_of_nonneg_left wide (Nat.cast_nonneg _))
  have twice :
      quotientUnits
          (quotientUnits (unitsOfNat word) (unitsOfPower greatestPower))
          (unitsOfPower greatestPower) =
        0 := by
    generalize quotientUnits (unitsOfNat word) _ = units at once
    apply (roundsTo_quotientUnits_unitsOfPower units greatestPower).eq_zero
    · exact div_nonneg (Nat.cast_nonneg units) positive.le
    · have cast : (units : ℚ) ≤ (2 ^ 115 : Nat) := Nat.cast_le.2 once
      have power : (2 : ℚ) ^ 115 * 2 ^ 2 ≤ 2 ^ 1023 := by
        rw [← pow_add]
        exact pow_le_pow_right₀ one_le_two (by decide)
      push_cast at cast
      rw [div_lt_iff₀ positive]
      generalize (2 : ℚ) ^ 1023 = great at wide power
      have some : (0 : ℚ) < 2 ^ 115 := by positivity
      linarith
  obtain ⟨more, rfl⟩ := Nat.exists_eq_add_of_le' several
  rw [divideByGreatest_succ, divideByGreatest_succ, twice,
    divideByGreatest_zero]

theorem mul_unitsPerOne_le_pow {exponent : Nat} (far : 616 ≤ exponent) :
    word * unitsPerOne ≤ 10 ^ (exponent + 1) := by
  obtain ⟨places, ⟨_, few⟩, one⟩ := exists_unitsPerOne_eq
  calc word * unitsPerOne
      ≤ 2 ^ 64 * unitsPerOne := Nat.mul_le_mul_right unitsPerOne small
    _ = 2 ^ (64 + places) := by rw [one, Nat.pow_add]
    _ ≤ 2 ^ (2 * (exponent + 1)) :=
        Nat.pow_le_pow_right Nat.two_pos (by omega)
    _ = 4 ^ (exponent + 1) := Nat.pow_mul 2 2 (exponent + 1)
    _ ≤ 10 ^ (exponent + 1) := Nat.pow_le_pow_left (by decide) _

/-- Division by powers of ten the range has no room for is near the exact
one. -/
theorem near_divideByGreatest (exponent : Nat) :
    Near 5 1 ((word : ℚ) * unitsPerOne / 10 ^ (exponent + 1))
      (quotientUnits
        (divideByGreatest (exponent / greatestPower) (unitsOfNat word))
        (unitsOfPower
          (exponent + 1 - exponent / greatestPower * greatestPower))) := by
  have nonnegative : (0 : ℚ) ≤ (word : ℚ) * unitsPerOne :=
    mul_nonneg (Nat.cast_nonneg word) cast_unitsPerOne_pos.le
  have exactNonnegative :
      (0 : ℚ) ≤ (word : ℚ) * unitsPerOne / 10 ^ (exponent + 1) :=
    div_nonneg nonnegative (by positivity)
  have near := near_unitsOfNat word
  rcases times : exponent / greatestPower with _ | _ | more
  · have once :=
      near_quotientUnits_unitsOfPower near nonnegative (le_refl 0) (exponent + 1)
    rw [divideByGreatest, Nat.zero_mul, Nat.sub_zero]
    exact
      once.weaken exactNonnegative (Nat.cast_nonneg _) (by norm_num)
        (by decide) (by norm_num)
  · have once :=
      near_quotientUnits_unitsOfPower near nonnegative (le_refl 0) greatestPower
    have left : greatestPower ≤ exponent + 1 := by
      have atLeast := Nat.div_mul_le_self exponent greatestPower
      rw [times] at atLeast
      omega
    have twice :=
      near_quotientUnits_unitsOfPower once (div_nonneg nonnegative (by positivity))
        (by norm_num) (exponent + 1 - greatestPower)
    rw [div_div, ← pow_add, Nat.add_sub_cancel' left] at twice
    rw [divideByGreatest_succ, divideByGreatest, Nat.zero_add, Nat.one_mul]
    exact
      twice.weaken exactNonnegative (Nat.cast_nonneg _) (by norm_num)
        (by decide) (by norm_num)
  · have nothing :
        divideByGreatest (more + 1 + 1) (unitsOfNat word) = 0 :=
      divideByGreatest_eq_zero small (by omega)
    have far : 616 ≤ exponent := by
      have atLeast := Nat.div_mul_le_self exponent greatestPower
      rw [times] at atLeast
      unfold greatestPower at atLeast
      omega
    have tiny : (word : ℚ) * unitsPerOne / 10 ^ (exponent + 1) ≤ 1 := by
      rw [div_le_one (by positivity)]
      exact_mod_cast mul_unitsPerOne_le_pow small far
    have exactly :
        Near 0 1 ((word : ℚ) * unitsPerOne / 10 ^ (exponent + 1))
          ((0 : Nat) : ℚ) := by
      rw [Nat.cast_zero]
      constructor
      · rw [pow_zero, one_mul]
        linarith
      · rw [pow_zero, one_mul]
        linarith
    rw [nothing, quotientUnits_zero]
    exact
      exactly.weaken exactNonnegative (Nat.cast_nonneg _) zero_le_one
        (Nat.zero_le 5) (le_refl 1)

end Word

/-! ## Scaling -/

section Scale

variable {exponent : Nat}

theorem scaleUnits?_natCast_of_le (units : Nat)
    (within : exponent ≤ greatestPower) :
    scaleUnits? units (exponent : Int) =
      if productUnits units (unitsOfPower exponent) < unitsLimit then
        some (productUnits units (unitsOfPower exponent))
      else none :=
  if_pos within

theorem scaleUnits?_natCast_of_lt (units : Nat)
    (beyond : greatestPower < exponent) :
    scaleUnits? units (exponent : Int) =
      if units = 0 then some 0 else none :=
  if_neg (Nat.not_le_of_lt beyond)

end Scale

/-- A word is scaled to within a few steps and one unit. -/
theorem scaleUnits?_eq_some {word : Nat} (small : word ≤ 2 ^ 64)
    {exponent : Int} {units : Nat}
    (scaled : scaleUnits? (unitsOfNat word) exponent = some units) :
    units < unitsLimit ∧ OnGrid units ∧
      Near 5 1 ((word : ℚ) * 10 ^ exponent * unitsPerOne) units := by
  cases exponent with
  | ofNat exponent =>
      change scaleUnits? (unitsOfNat word) (exponent : Int) = some units
        at scaled
      change _ ∧ _ ∧
        Near 5 1 ((word : ℚ) * 10 ^ (exponent : Int) * unitsPerOne) units
      rw [zpow_natCast]
      have nonnegative :
          (0 : ℚ) ≤ (word : ℚ) * 10 ^ exponent * unitsPerOne :=
        mul_nonneg (by positivity) cast_unitsPerOne_pos.le
      by_cases within : exponent ≤ greatestPower
      · rw [scaleUnits?_natCast_of_le _ within] at scaled
        split at scaled
        · rename_i fits
          have near := near_productUnits word exponent
          have onGrid := (roundsTo_productUnits (unitsOfNat word) exponent).onGrid
          rw [Option.some.injEq] at scaled
          rw [scaled] at fits near onGrid
          exact
            ⟨fits, onGrid,
              near.weaken nonnegative (Nat.cast_nonneg _) (le_refl 0)
                (by decide) zero_le_one⟩
        · cases scaled
      · rw [scaleUnits?_natCast_of_lt _ (Nat.lt_of_not_le within)] at scaled
        split at scaled
        · rename_i nothing
          rw [unitsOfNat_eq_zero_iff] at nothing
          rw [Option.some.injEq] at scaled
          rw [nothing, ← scaled, Nat.cast_zero, zero_mul, zero_mul]
          have limit : 0 < unitsLimit := by
            unfold unitsLimit
            apply two_pow_pos
          exact
            ⟨limit, onGrid_zero,
              (Near.of_eq 0).weaken (le_refl 0) (le_refl 0) (le_refl 0)
                (by decide) zero_le_one⟩
        · cases scaled
  | negSucc exponent =>
      rw [scaleUnits?, Option.some.injEq] at scaled
      have near := near_divideByGreatest small exponent
      have onGrid := onGrid_two_pow_mul_unitsPerOne 64
      have bounded :=
        quotientUnits_le
          (divideByGreatest_le (unitsOfNat_le small) onGrid
            (exponent / greatestPower))
          onGrid (exponent + 1 - exponent / greatestPower * greatestPower)
      have rounded :=
        roundsTo_quotientUnits_unitsOfPower
          (divideByGreatest (exponent / greatestPower) (unitsOfNat word))
          (exponent + 1 - exponent / greatestPower * greatestPower)
      rw [scaled] at near bounded rounded
      rw [zpow_negSucc, mul_right_comm, ← div_eq_mul_inv]
      exact
        ⟨Nat.lt_of_le_of_lt bounded two_pow_mul_unitsPerOne_lt,
          rounded.onGrid, near⟩

/-- Every power of ten that is missing lies beyond the overflow bound. -/
theorem overflowBound_le_ten_pow {exponent : Nat}
    (beyond : greatestPower < exponent) :
    overflowBound ≤ 10 ^ exponent := by
  have power : 2 ^ 1024 ≤ 10 ^ 309 := by decide +kernel
  have cast : ((2 ^ 1024 : Nat) : ℚ) ≤ (10 ^ 309 : Nat) := Nat.cast_le.2 power
  rw [Nat.cast_pow, Nat.cast_pow] at cast
  exact
    (overflowBound_le_two_pow.trans cast).trans
      (pow_le_pow_right₀ (by norm_num) beyond)

/-- What is refused comes near the overflow bound. -/
theorem overflowBound_le_of_scaleUnits?_eq_none {word : Nat} {exponent : Int}
    (refused : scaleUnits? (unitsOfNat word) exponent = none) :
    overflowBound ≤ stepFactor ^ 2 * ((word : ℚ) * 10 ^ exponent) := by
  cases exponent with
  | ofNat exponent =>
      change scaleUnits? (unitsOfNat word) (exponent : Int) = none at refused
      change _ ≤ stepFactor ^ 2 * ((word : ℚ) * 10 ^ (exponent : Int))
      rw [zpow_natCast]
      by_cases within : exponent ≤ greatestPower
      · rw [scaleUnits?_natCast_of_le _ within] at refused
        split at refused
        · cases refused
        · rename_i tooGreat
          rw [productUnits_lt_unitsLimit_iff, not_lt,
            le_div_iff₀ cast_unitsPerOne_pos] at tooGreat
          have near := (near_word_mul_roundedPower word exponent).second_le
          rw [add_zero, ← mul_assoc] at near
          exact
            le_of_mul_le_mul_right (tooGreat.trans near) cast_unitsPerOne_pos
      · rw [scaleUnits?_natCast_of_lt _ (Nat.lt_of_not_le within)] at refused
        split at refused
        · cases refused
        · rename_i something
          rw [unitsOfNat_eq_zero_iff] at something
          have atLeast : ((1 : Nat) : ℚ) ≤ word :=
            Nat.cast_le.2 (Nat.pos_of_ne_zero something)
          rw [Nat.cast_one] at atLeast
          have power : (0 : ℚ) ≤ 10 ^ exponent := by positivity
          calc overflowBound
              ≤ 10 ^ exponent :=
                overflowBound_le_ten_pow (Nat.lt_of_not_le within)
            _ ≤ word * 10 ^ exponent := le_mul_of_one_le_left power atLeast
            _ ≤ stepFactor ^ 2 * (word * 10 ^ exponent) :=
                le_mul_of_one_le_left
                  (mul_nonneg (Nat.cast_nonneg word) power)
                  (one_le_stepFactor_pow 2)
  | negSucc exponent => cases refused

/-- Beyond the overflow bound everything is refused. -/
theorem scaleUnits?_eq_none_of_le {word : Nat} (small : word ≤ 2 ^ 64)
    {exponent : Int}
    (large : stepFactor ^ 2 * overflowBound ≤ (word : ℚ) * 10 ^ exponent) :
    scaleUnits? (unitsOfNat word) exponent = none := by
  cases exponent with
  | ofNat exponent =>
      change scaleUnits? (unitsOfNat word) (exponent : Int) = none
      change _ ≤ (word : ℚ) * 10 ^ (exponent : Int) at large
      rw [zpow_natCast] at large
      by_cases within : exponent ≤ greatestPower
      · rw [scaleUnits?_natCast_of_le _ within]
        apply if_neg
        rw [productUnits_lt_unitsLimit_iff, not_lt,
          le_div_iff₀ cast_unitsPerOne_pos]
        have near := (near_word_mul_roundedPower word exponent).first_le
        have scaledUp :=
          mul_le_mul_of_nonneg_right large cast_unitsPerOne_pos.le
        rw [add_zero] at near
        rw [mul_assoc] at scaledUp
        exact le_of_mul_le_mul_left (scaledUp.trans near) (stepFactor_pow_pos 2)
      · rw [scaleUnits?_natCast_of_lt _ (Nat.lt_of_not_le within)]
        apply if_neg
        rw [unitsOfNat_eq_zero_iff]
        rintro rfl
        rw [Nat.cast_zero, zero_mul] at large
        exact
          absurd (mul_pos (stepFactor_pow_pos 2) overflowBound_pos)
            (not_lt.2 large)
  | negSucc exponent =>
      have smallCast : (word : ℚ) ≤ (2 ^ 64 : Nat) := Nat.cast_le.2 small
      rw [Nat.cast_pow, Nat.cast_ofNat] at smallCast
      have divided : (word : ℚ) * 10 ^ (Int.negSucc exponent) ≤ word := by
        rw [zpow_negSucc, ← div_eq_mul_inv]
        exact div_le_self (Nat.cast_nonneg word) (one_le_pow₀ (by norm_num))
      have bound : overflowBound ≤ stepFactor ^ 2 * overflowBound :=
        le_mul_of_one_le_left overflowBound_pos.le (one_le_stepFactor_pow 2)
      exact
        absurd (bound.trans (large.trans (divided.trans smallCast)))
          (not_le.2 (two_pow_lt_overflowBound (by decide)))

/-! ## Short words and small powers -/

theorem roundedPower_of_few {exponent : Nat} (few : exponent ≤ 22) :
    roundedPower exponent = 10 ^ exponent := by
  have factors : Nat.pow 10 exponent = 5 ^ exponent * 2 ^ exponent :=
    Nat.mul_pow 5 2 exponent
  have short : 5 ^ exponent ≤ 2 ^ 53 :=
    Nat.le_trans (Nat.pow_le_pow_right (by decide) few) (by decide)
  have exactly :
      unitsOfPower exponent = 5 ^ exponent * 2 ^ exponent * unitsPerOne := by
    apply (roundsTo_unitsOfNat _).eq_point
      (onGrid_mul_unitsPerOne short exponent)
    rw [factors, Nat.cast_mul (5 ^ exponent * 2 ^ exponent)]
  have power : ((Nat.pow 10 exponent : Nat) : ℚ) = 10 ^ exponent :=
    Nat.cast_pow 10 exponent
  rw [roundedPower, exactly, ← factors, Nat.cast_mul,
    mul_div_cancel_right₀ _ cast_unitsPerOne_pos.ne', power]

/-- A short word times a small power of ten is rounded once. -/
theorem exists_roundsTo_scaleUnits? {word : Nat} (short : word ≤ 2 ^ 53)
    {exponent : Int} (few : exponent.natAbs ≤ 22) :
    ∃ units,
      scaleUnits? (unitsOfNat word) exponent = some units ∧
        RoundsTo ((word : ℚ) * 10 ^ exponent * unitsPerOne) units := by
  have shortCast : ((unitsOfNat word : Nat) : ℚ) = word * unitsPerOne := by
    rw [unitsOfNat_of_short short, Nat.cast_mul]
  cases exponent with
  | ofNat exponent =>
      change exponent ≤ 22 at few
      change ∃ units,
        scaleUnits? (unitsOfNat word) (exponent : Int) = some units ∧
          RoundsTo ((word : ℚ) * 10 ^ (exponent : Int) * unitsPerOne) units
      have within : exponent ≤ greatestPower := Nat.le_trans few (by decide)
      have rounded := roundsTo_productUnits (unitsOfNat word) exponent
      rw [roundedPower_of_few few, shortCast, mul_right_comm] at rounded
      have value : (word : ℚ) * 10 ^ exponent < overflowBound := by
        have bound : word * 10 ^ exponent ≤ 2 ^ 53 * 10 ^ 22 :=
          Nat.mul_le_mul short (Nat.pow_le_pow_right (by decide) few)
        have power : 2 ^ 53 * 10 ^ 22 ≤ 2 ^ 127 := by decide
        have cast : ((word * 10 ^ exponent : Nat) : ℚ) ≤ (2 ^ 127 : Nat) :=
          Nat.cast_le.2 (Nat.le_trans bound power)
        rw [Nat.cast_mul, Nat.cast_pow, Nat.cast_pow] at cast
        exact cast.trans_lt (two_pow_lt_overflowBound (by decide))
      have fits := rounded.lt_unitsLimit_iff.2 value
      rw [← zpow_natCast] at rounded
      refine ⟨_, ?_, rounded⟩
      rw [scaleUnits?_natCast_of_le _ within]
      exact if_pos fits
  | negSucc exponent =>
      change exponent + 1 ≤ 22 at few
      have within : exponent < greatestPower :=
        Nat.lt_of_lt_of_le few (by decide)
      have once : exponent / greatestPower = 0 := Nat.div_eq_of_lt within
      have rounded := roundsTo_quotientUnits_unitsOfPower (unitsOfNat word) (exponent + 1)
      rw [roundedPower_of_few few, shortCast, mul_div_right_comm,
        div_eq_mul_inv, ← zpow_negSucc] at rounded
      refine ⟨_, ?_, rounded⟩
      rw [scaleUnits?, once, divideByGreatest, Nat.zero_mul, Nat.sub_zero]

end Preflight.Binary64
