import Mathlib.Algebra.Order.Group.Lattice
import Mathlib.Data.Int.Log
import Preflight.Proofs.Binary64.Encoding

/-!
# Reading decimals

A decimal below the overflow bound is read as the number nearest to it, and
from the bound on as none. Decimals far outside the range need no rounding:
they are below half of the least magnitude or beyond the bound.
-/

namespace Preflight.Binary64

/-- The least value that is too great: half way between the greatest number
and the power of two behind it. -/
def overflowBound : ℚ := 2 ^ 1024 - 2 ^ 970

theorem overflowBound_le_two_pow : overflowBound ≤ 2 ^ 1024 := by
  unfold overflowBound
  exact sub_le_self _ (by positivity)

theorem two_pow_lt_overflowBound {exponent : Nat} (low : exponent < 970) :
    2 ^ exponent < overflowBound := by
  have smaller : (2 : ℚ) ^ exponent < 2 ^ 970 :=
    pow_lt_pow_right₀ one_lt_two low
  have doubled : (2 : ℚ) ^ 970 + 2 ^ 970 ≤ 2 ^ 1024 := by
    rw [← two_mul, ← pow_succ']
    exact pow_le_pow_right₀ one_le_two (by decide)
  rw [overflowBound, lt_sub_iff_add_lt]
  exact (add_lt_add_left smaller _).trans_le doubled

theorem overflowBound_pos : 0 < overflowBound :=
  (pow_pos two_pos 64).trans (two_pow_lt_overflowBound (by decide))

theorem cast_unitsPerOne : ((unitsPerOne : Nat) : ℚ) = 2 ^ 1074 := by
  unfold unitsPerOne
  generalize 1074 = exponent
  exact Nat.cast_pow 2 exponent

/-- The overflow bound in units. -/
theorem overflowBound_mul_unitsPerOne :
    overflowBound * unitsPerOne = 2 ^ 53 * 2 ^ (2044 + 1) - 2 ^ 2044 := by
  have shifted (a b c : Nat) :
      ((2 : ℚ) ^ a - 2 ^ b) * 2 ^ c = 2 ^ (a + c) - 2 ^ (b + c) := by
    rw [sub_mul, pow_add, pow_add]
  have limit : 1024 + 1074 = 53 + (2044 + 1) := by decide
  have below : 970 + 1074 = 2044 := by decide
  rw [cast_unitsPerOne, overflowBound, shifted, limit, below, pow_add]

theorem two_pow_eq_mul {exponent first second : Nat}
    (split : exponent = first + second) :
    Nat.pow 2 exponent = 2 ^ first * 2 ^ second := by
  rw [split]
  exact Nat.pow_add 2 first second

theorem unitsLimit_eq : unitsLimit = 2 ^ 53 * 2 ^ (2044 + 1) := by
  unfold unitsLimit
  apply two_pow_eq_mul
  decide

theorem RoundsTo.lt_unitsLimit_iff {value : ℚ} {units : Nat}
    (roundsTo : RoundsTo (value * unitsPerOne) units) :
    units < unitsLimit ↔ value < overflowBound := by
  rw [unitsLimit_eq, roundsTo.lt_two_pow_iff, ← overflowBound_mul_unitsPerOne]
  exact mul_lt_mul_iff_left₀ cast_unitsPerOne_pos

/-! ## Decimals far outside the range -/

theorem decimalLength_bounds {n : Nat} (nonzero : n ≠ 0) :
    10 ^ (decimalLength n - 1) ≤ n ∧ n < 10 ^ decimalLength n := by
  have positive : 0 < decimalLength n :=
    List.length_pos_iff.2 Nat.toDigits_ne_nil
  constructor
  · by_cases single : decimalLength n = 1
    · rw [single]
      exact Nat.pos_of_ne_zero nonzero
    · by_contra short
      have fewer :=
        (Nat.length_toDigits_le_iff (by decide) (by omega)).2
          (Nat.lt_of_not_le short)
      rw [← decimalLength] at fewer
      omega
  · exact
      (Nat.length_toDigits_le_iff (by decide) positive).1 (Nat.le_refl _)

theorem two_pow_le_ten_pow : (2 : ℚ) ^ 1200 ≤ 10 ^ 400 := by
  have exponent : 1200 = 3 * 400 := by decide
  rw [exponent, pow_mul]
  exact pow_le_pow_left₀ (by norm_num) (by norm_num) 400

section Outside

variable {coefficient : Nat} {exponent : Int}

theorem lt_ten_zpow (nonzero : coefficient ≠ 0) :
    (coefficient : ℚ) * 10 ^ exponent <
      10 ^ (exponent + decimalLength coefficient) := by
  have upper : ((coefficient : Nat) : ℚ) < (10 ^ decimalLength coefficient : Nat) :=
    Nat.cast_lt.2 (decimalLength_bounds nonzero).2
  have positive : (0 : ℚ) < 10 ^ exponent := zpow_pos (by norm_num) exponent
  rw [add_comm, zpow_add₀ (by norm_num), zpow_natCast]
  push_cast at upper
  exact mul_lt_mul_of_pos_right upper positive

theorem ten_zpow_le (nonzero : coefficient ≠ 0) :
    (10 : ℚ) ^ (exponent + decimalLength coefficient - 1) ≤
      coefficient * 10 ^ exponent := by
  have lower :
      ((10 ^ (decimalLength coefficient - 1) : Nat) : ℚ) ≤ coefficient :=
    Nat.cast_le.2 (decimalLength_bounds nonzero).1
  have positive : (0 : ℚ) < 10 ^ exponent := zpow_pos (by norm_num) exponent
  have someDigit : 0 < decimalLength coefficient :=
    List.length_pos_iff.2 Nat.toDigits_ne_nil
  have leading :
      exponent + decimalLength coefficient - 1 =
        (decimalLength coefficient - 1 : Nat) + exponent := by
    omega
  rw [leading, zpow_add₀ (by norm_num), zpow_natCast]
  push_cast at lower
  exact mul_le_mul_of_nonneg_right lower positive.le

/-- A decimal far below the range is less than half of a unit. -/
theorem roundsTo_zero_of_early (nonzero : coefficient ≠ 0)
    (early : exponent + decimalLength coefficient < -decimalBound) :
    RoundsTo ((coefficient : ℚ) * 10 ^ exponent * unitsPerOne) 0 := by
  have upper := @lt_ten_zpow coefficient exponent nonzero
  have power :
      (10 : ℚ) ^ (exponent + decimalLength coefficient) ≤ 10 ^ (-400 : ℤ) :=
    zpow_le_zpow_right₀ (by norm_num) early.le
  have tiny : (10 : ℚ) ^ (-400 : ℤ) * 2 ^ 1200 ≤ 1 := by
    rw [zpow_neg, inv_mul_le_iff₀ (zpow_pos (by norm_num) _), mul_one]
    exact two_pow_le_ten_pow
  have wide : (2 : ℚ) * 2 ^ 1074 ≤ 2 ^ 1200 := by
    rw [← pow_succ']
    exact pow_le_pow_right₀ (by norm_num) (by decide)
  have nonnegative : (0 : ℚ) ≤ coefficient * 10 ^ exponent :=
    mul_nonneg (Nat.cast_nonneg coefficient)
      (zpow_nonneg (by norm_num) exponent)
  have unit : (0 : ℚ) < 2 ^ 1074 := pow_pos two_pos 1074
  rw [cast_unitsPerOne]
  generalize (coefficient : ℚ) * 10 ^ exponent = value at upper nonnegative ⊢
  generalize (2 : ℚ) ^ 1074 = units at wide unit ⊢
  generalize (10 : ℚ) ^ (-400 : ℤ) = least at power tiny
  generalize (2 : ℚ) ^ 1200 = large at wide tiny
  have below : value ≤ least := upper.le.trans power
  apply roundsTo_zero (mul_nonneg nonnegative unit.le)
  nlinarith

theorem overflowBound_le_of_late (nonzero : coefficient ≠ 0)
    (late : decimalBound < exponent + decimalLength coefficient) :
    overflowBound ≤ (coefficient : ℚ) * 10 ^ exponent := by
  have lower := @ten_zpow_le coefficient exponent nonzero
  have power :
      (10 : ℚ) ^ (400 : ℤ) ≤
        10 ^ (exponent + decimalLength coefficient - 1) := by
    apply zpow_le_zpow_right₀ (by norm_num)
    unfold decimalBound at late
    omega
  have small : overflowBound ≤ 2 ^ 1200 := by
    have positive : (0 : ℚ) < 2 ^ 970 := pow_pos two_pos 970
    have wide : (2 : ℚ) ^ 1024 ≤ 2 ^ 1200 :=
      pow_le_pow_right₀ (by norm_num) (by decide)
    exact (sub_le_self _ positive.le).trans wide
  calc overflowBound
      ≤ 2 ^ 1200 := small
    _ ≤ 10 ^ 400 := two_pow_le_ten_pow
    _ ≤ 10 ^ (exponent + decimalLength coefficient - 1) := power
    _ ≤ coefficient * 10 ^ exponent := lower

end Outside

/-! ## Decimals as numbers -/

/-- The quotient that is rounded for a decimal is the decimal in units. -/
theorem decimal_quotient (coefficient : Nat) (exponent : Int) :
    ((coefficient * Nat.pow 10 exponent.toNat * unitsPerOne : Nat) : ℚ) /
        (Nat.pow 10 (-exponent).toNat : Nat) =
      (coefficient : ℚ) * 10 ^ exponent * unitsPerOne := by
  have power :
      ((Nat.pow 10 exponent.toNat : Nat) : ℚ) /
          (Nat.pow 10 (-exponent).toNat : Nat) =
        10 ^ exponent := by
    have cast (n : Nat) : ((Nat.pow 10 n : Nat) : ℚ) = 10 ^ n :=
      Nat.cast_pow 10 n
    rw [cast, cast]
    rcases le_total 0 exponent with nonnegative | nonpositive
    · obtain ⟨n, rfl⟩ := Int.eq_ofNat_of_zero_le nonnegative
      simp
    · obtain ⟨n, opposite⟩ := Int.exists_eq_neg_ofNat nonpositive
      rw [opposite]
      simp
  rw [Nat.cast_mul, Nat.cast_mul, ← power]
  ring

/-- Whichever way a decimal is read, it is rounded and refused from the limit
on. -/
theorem exists_roundsTo_unitsOfDecimal? (coefficient : Nat)
    (exponent : Int) :
    ∃ units,
      RoundsTo ((coefficient : ℚ) * 10 ^ exponent * unitsPerOne) units ∧
        unitsOfDecimal? coefficient exponent =
          if units < unitsLimit then some units else none := by
  have positive : 0 < Nat.pow 10 (-exponent).toNat :=
    Nat.pow_pos (by decide)
  have rounded :=
    roundsTo_roundUnits (coefficient * Nat.pow 10 exponent.toNat * unitsPerOne)
      positive
  rw [decimal_quotient] at rounded
  have limit : 0 < unitsLimit := by
    unfold unitsLimit
    apply two_pow_pos
  by_cases zero : coefficient = 0
  · refine ⟨0, ?_, ?_⟩
    · rw [zero, Nat.cast_zero, zero_mul, zero_mul]
      exact roundsTo_zero (le_refl _) (by norm_num)
    · simp only [unitsOfDecimal?, zero, decide_true, Bool.true_or, if_true,
        limit]
  · by_cases early : exponent + decimalLength coefficient < -decimalBound
    · refine ⟨0, roundsTo_zero_of_early zero early, ?_⟩
      simp only [unitsOfDecimal?, zero, early, decide_true, Bool.or_true,
        if_true, limit]
    · by_cases late : decimalBound < exponent + decimalLength coefficient
      · refine ⟨_, rounded, ?_⟩
        have beyond : ¬ _ < unitsLimit := fun small =>
          absurd (rounded.lt_unitsLimit_iff.1 small)
            (not_lt.2 (overflowBound_le_of_late zero late))
        simp only [unitsOfDecimal?, zero, early, late, decide_false,
          Bool.or_self, Bool.false_eq_true, if_false, if_true, beyond]
      · refine ⟨_, rounded, ?_⟩
        simp only [unitsOfDecimal?, zero, early, late, decide_false,
          Bool.or_self, Bool.false_eq_true, if_false]

/-! ## Numbers of either sign -/

/-- A number is nearest to a value when it is finite, no finite number is
nearer, and its last bit is even if another value is as near. -/
structure IsNearestTo (x : Binary64) (value : ℚ) : Prop where
  finite : x.isFinite = true
  nearest :
    ∀ other : Binary64, other.isFinite = true →
      |x.toRat - value| ≤ |other.toRat - value|
  even :
    ∀ other : Binary64, other.isFinite = true → other.toRat ≠ x.toRat →
      |x.toRat - value| = |other.toRat - value| → x.fraction % 2 = 0

/-- A value with a sign. -/
def signed (negative : Bool) (magnitude : ℚ) : ℚ :=
  (if negative then -1 else 1) * magnitude

theorem signed_false (magnitude : ℚ) : signed false magnitude = magnitude := by
  rw [signed, if_neg Bool.false_ne_true, one_mul]

theorem abs_signed (negative : Bool) (magnitude : ℚ) :
    |signed negative magnitude| = |magnitude| := by
  cases negative <;> simp [signed]

theorem abs_signed_sub (negative : Bool) (first second : ℚ) :
    |signed negative first - signed negative second| = |first - second| := by
  rw [signed, signed, ← mul_sub, ← signed, abs_signed]

theorem abs_signed_sub_of_ne {negative other : Bool}
    (opposite : other ≠ negative) {first second : ℚ}
    (nonnegative : 0 ≤ first) (otherNonnegative : 0 ≤ second) :
    |signed other first - signed negative second| = first + second := by
  have flipped :
      signed other first - signed negative second =
        signed other (first + second) := by
    cases negative <;> cases other <;> simp [signed] at opposite ⊢
    ring
  rw [flipped, abs_signed, abs_of_nonneg (add_nonneg nonnegative otherNonnegative)]

theorem toRat_eq_signed (x : Binary64) :
    x.toRat = signed x.isNegative (x.units / unitsPerOne) := rfl

theorem toRat_of_not_isNegative {x : Binary64}
    (nonnegative : x.isNegative = false) :
    x.toRat = x.units / unitsPerOne := by
  rw [toRat_eq_signed, nonnegative, signed_false]

theorem fraction_even_of_hasEvenBit {x : Binary64}
    (even : HasEvenBit x.units) : x.fraction % 2 = 0 := by
  by_contra odd
  have isOdd : x.fraction % 2 = 1 := by omega
  unfold Binary64.units at even
  by_cases tiny : x.exponentField = 0
  · rw [if_pos tiny, ← Nat.mul_one x.fraction] at even
    exact not_hasEvenBit isOdd (Or.inr rfl) even
  · rw [if_neg tiny] at even
    have significandOdd : (Nat.pow 2 52 + x.fraction) % 2 = 1 := by
      rw [pow_two_fraction]
      omega
    have full : 2 ^ 52 < Nat.pow 2 52 + x.fraction := by
      have positive : 0 < x.fraction := by omega
      exact Nat.lt_add_of_pos_right positive
    exact not_hasEvenBit significandOdd (Or.inl full) even

section Units

variable {units other : Nat} {magnitude : ℚ}

theorem abs_div_unitsPerOne_sub (units : Nat) (magnitude : ℚ) :
    |(units : ℚ) / unitsPerOne - magnitude| =
      |(units : ℚ) - magnitude * unitsPerOne| / unitsPerOne := by
  have positive := cast_unitsPerOne_pos
  rw [eq_div_iff positive.ne', ← abs_of_pos positive, ← abs_mul, sub_mul,
    abs_of_pos positive, div_mul_cancel₀ _ positive.ne']

theorem RoundsTo.nearest_value
    (rounded : RoundsTo (magnitude * unitsPerOne) units)
    (onGrid : OnGrid other) :
    |(units : ℚ) / unitsPerOne - magnitude| ≤
      |(other : ℚ) / unitsPerOne - magnitude| := by
  rw [abs_div_unitsPerOne_sub, abs_div_unitsPerOne_sub]
  exact
    div_le_div_of_nonneg_right (rounded.nearest other onGrid)
      cast_unitsPerOne_pos.le

theorem RoundsTo.even_of_tie
    (rounded : RoundsTo (magnitude * unitsPerOne) units)
    (onGrid : OnGrid other) (different : other ≠ units)
    (tie :
      |(units : ℚ) / unitsPerOne - magnitude| =
        |(other : ℚ) / unitsPerOne - magnitude|) :
    HasEvenBit units := by
  rw [abs_div_unitsPerOne_sub, abs_div_unitsPerOne_sub,
    div_left_inj' cast_unitsPerOne_pos.ne'] at tie
  exact rounded.even other onGrid different tie

end Units

/-- Among the numbers of both signs the nearest is the one of the same sign
whose magnitude is nearest. -/
theorem isNearestTo_of_roundsTo {x : Binary64} {magnitude : ℚ}
    (finite : x.isFinite = true) (nonnegative : 0 ≤ magnitude)
    (rounded : RoundsTo (magnitude * unitsPerOne) x.units) :
    x.IsNearestTo (signed x.isNegative magnitude) := by
  have quotientNonnegative (n : Nat) : (0 : ℚ) ≤ (n : ℚ) / unitsPerOne :=
    div_nonneg (Nat.cast_nonneg n) (Nat.cast_nonneg unitsPerOne)
  -- A number of the other sign is at least as far away as zero.
  have toZero := rounded.nearest_value onGrid_zero
  rw [Nat.cast_zero, zero_div, zero_sub, abs_neg, abs_of_nonneg nonnegative]
    at toZero
  constructor
  · exact finite
  · intro other _
    rw [toRat_eq_signed x, toRat_eq_signed other, abs_signed_sub]
    by_cases same : other.isNegative = x.isNegative
    · rw [same, abs_signed_sub]
      exact rounded.nearest_value (onGrid_units other)
    · rw [abs_signed_sub_of_ne same (quotientNonnegative other.units)
        nonnegative]
      have further := quotientNonnegative other.units
      linarith
  · intro other _ different tie
    apply fraction_even_of_hasEvenBit
    rw [toRat_eq_signed x, toRat_eq_signed other] at different
    rw [toRat_eq_signed x, toRat_eq_signed other, abs_signed_sub] at tie
    by_cases same : other.isNegative = x.isNegative
    · rw [same, abs_signed_sub] at tie
      apply rounded.even_of_tie (onGrid_units other) _ tie
      intro sameUnits
      rw [same, sameUnits] at different
      exact different rfl
    · rw [abs_signed_sub_of_ne same (quotientNonnegative other.units)
        nonnegative] at tie
      have further := quotientNonnegative other.units
      have otherZero : (other.units : ℚ) / unitsPerOne = 0 := by linarith
      apply rounded.even_of_tie onGrid_zero
      · intro zero
        rw [otherZero, ← zero, Nat.cast_zero, zero_div] at different
        exact different (by simp [signed])
      · rw [tie, otherZero, Nat.cast_zero, zero_div, zero_sub, abs_neg,
          abs_of_nonneg nonnegative, zero_add]

section OfUnits

variable {units : Nat} (small : units < unitsLimit) (negative : Bool)

include small

theorem toRat_ofUnits (onGrid : OnGrid units) :
    (ofUnits negative units).toRat = signed negative (units / unitsPerOne) := by
  rw [toRat_eq_signed, isNegative_ofUnits small, units_ofUnits small onGrid]

/-- A magnitude that is rounded to one in the range has that number, of either
sign, as the nearest. -/
theorem RoundsTo.isNearestTo_ofUnits {magnitude : ℚ}
    (rounded : RoundsTo (magnitude * unitsPerOne) units)
    (nonnegative : 0 ≤ magnitude) :
    (ofUnits negative units).IsNearestTo (signed negative magnitude) := by
  have nearest :
      (ofUnits negative units).IsNearestTo
        (signed (ofUnits negative units).isNegative magnitude) := by
    apply isNearestTo_of_roundsTo (isFinite_ofUnits small negative) nonnegative
    rwa [units_ofUnits small rounded.onGrid]
  rwa [isNegative_ofUnits small] at nearest

end OfUnits

/-! ## Decimals -/

theorem ofDecimal?_eq_some {negative : Bool} {coefficient : Nat}
    {exponent : Int} {x : Binary64}
    (read : ofDecimal? negative coefficient exponent = some x) :
    x.isNegative = negative ∧
      x.IsNearestTo (signed negative (coefficient * 10 ^ exponent)) := by
  obtain ⟨units, rounded, spelt⟩ :=
    exists_roundsTo_unitsOfDecimal? coefficient exponent
  by_cases small : units < unitsLimit
  · rw [ofDecimal?, spelt, if_pos small, Option.map_some, Option.some.injEq]
      at read
    subst read
    refine ⟨isNegative_ofUnits small negative, ?_⟩
    apply rounded.isNearestTo_ofUnits small negative
    exact
      mul_nonneg (Nat.cast_nonneg coefficient)
        (zpow_nonneg (by norm_num) exponent)
  · rw [ofDecimal?, spelt, if_neg small] at read
    cases read

end Preflight.Binary64
