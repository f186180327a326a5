import Mathlib.Algebra.Order.Field.Basic
import Mathlib.Algebra.Order.Field.Rat
import Mathlib.Data.Nat.Cast.Order.Field
import Mathlib.Tactic.Linarith
import Mathlib.Tactic.NormNum
import Mathlib.Tactic.Ring
import Preflight.Proofs.Binary64.Rounding

/-!
# What rounding means

The magnitudes of the format form a grid: they have at most fifty-three
significant bits. A quotient is rounded to the point of the grid that lies
nearest to it, and of two equally near ones to the one whose last bit is
even.
-/

namespace Preflight.Binary64

/-! ## The nearest whole number -/

section Whole

variable {exact : ℚ} {whole : Nat}

theorem abs_sub_of_le {n : Nat} (below : (whole : ℚ) ≤ exact)
    (small : n ≤ whole) : |(n : ℚ) - exact| = exact - n := by
  have cast : (n : ℚ) ≤ whole := Nat.cast_le.2 small
  rw [abs_sub_comm, abs_of_nonneg (by linarith)]

theorem abs_sub_of_lt {n : Nat} (above : exact < whole + 1)
    (large : whole + 1 ≤ n) : |(n : ℚ) - exact| = n - exact := by
  have cast : ((whole + 1 : Nat) : ℚ) ≤ n := Nat.cast_le.2 large
  push_cast at cast
  rw [abs_of_nonneg (by linarith)]

end Whole

/-- A whole number is nearest to an exact one when no other is nearer, and even
when another is as near. -/
structure IsNearest (exact : ℚ) (n : Nat) : Prop where
  nearest : ∀ other : Nat, |(n : ℚ) - exact| ≤ |(other : ℚ) - exact|
  even :
    ∀ other : Nat, other ≠ n →
      |(n : ℚ) - exact| = |(other : ℚ) - exact| → n % 2 = 0

theorem isNearest_floor {exact : ℚ} {whole : Nat}
    (below : (whole : ℚ) ≤ exact) (above : exact < whole + 1)
    (near : exact - whole ≤ 1 / 2)
    (tie : exact - whole = 1 / 2 → whole % 2 = 0) :
    IsNearest exact whole := by
  have here := abs_sub_of_le below (Nat.le_refl whole)
  constructor
  · intro other
    rcases Nat.lt_or_ge whole other with large | small
    · have cast : ((whole + 1 : Nat) : ℚ) ≤ other := Nat.cast_le.2 large
      push_cast at cast
      rw [here, abs_sub_of_lt above large]
      linarith
    · have cast : (other : ℚ) ≤ whole := Nat.cast_le.2 small
      rw [here, abs_sub_of_le below small]
      linarith
  · intro other different same
    rcases Nat.lt_or_ge whole other with large | small
    · have cast : ((whole + 1 : Nat) : ℚ) ≤ other := Nat.cast_le.2 large
      push_cast at cast
      rw [here, abs_sub_of_lt above large] at same
      exact tie (by linarith)
    · have cast : (other : ℚ) < whole := by
        exact_mod_cast Nat.lt_of_le_of_ne small different
      rw [here, abs_sub_of_le below small] at same
      exact absurd same (by linarith)

theorem isNearest_ceiling {exact : ℚ} {whole : Nat}
    (below : (whole : ℚ) ≤ exact) (above : exact < whole + 1)
    (near : 1 / 2 ≤ exact - whole)
    (tie : exact - whole = 1 / 2 → (whole + 1) % 2 = 0) :
    IsNearest exact (whole + 1) := by
  have here := abs_sub_of_lt above (Nat.le_refl (whole + 1))
  push_cast at here
  constructor
  · intro other
    push_cast
    rcases Nat.lt_or_ge whole other with large | small
    · have cast : ((whole + 1 : Nat) : ℚ) ≤ other := Nat.cast_le.2 large
      push_cast at cast
      rw [here, abs_sub_of_lt above large]
      linarith
    · have cast : (other : ℚ) ≤ whole := Nat.cast_le.2 small
      rw [here, abs_sub_of_le below small]
      linarith
  · intro other different same
    push_cast at same
    rcases Nat.lt_or_ge whole other with large | small
    · have cast : ((whole + 1 : Nat) : ℚ) < other := by
        exact_mod_cast Nat.lt_of_le_of_ne large (Ne.symm different)
      push_cast at cast
      rw [here, abs_sub_of_lt above large] at same
      exact absurd same (by linarith)
    · have cast : (other : ℚ) ≤ whole := Nat.cast_le.2 small
      rw [here, abs_sub_of_le below small] at same
      exact tie (by linarith)

/-- Below a half, at it and above it, a quotient is nearest to its floor, to the
even of the two whole numbers next to it, and to its ceiling. -/
theorem isNearest_nearestEven (numerator : Nat) {denominator : Nat}
    (positive : 0 < denominator) :
    IsNearest ((numerator : ℚ) / denominator)
      (nearestEven numerator denominator) := by
  have positiveCast : (0 : ℚ) < denominator := Nat.cast_pos.2 positive
  have divided :
      (numerator : ℚ) / denominator =
        (numerator / denominator : Nat) +
          (numerator % denominator : Nat) / (denominator : ℚ) := by
    have parts := Nat.div_add_mod numerator denominator
    rw [div_eq_iff positiveCast.ne', add_mul,
      div_mul_cancel₀ _ positiveCast.ne']
    exact_mod_cast (by rw [Nat.mul_comm]; exact parts.symm)
  have small := Nat.mod_lt numerator positive
  simp only [nearestEven]
  rw [divided]
  generalize numerator / denominator = whole
  generalize numerator % denominator = left at small
  have smallCast : (left : ℚ) / denominator < 1 := by
    rw [div_lt_one positiveCast]
    exact_mod_cast small
  have nonnegative : (0 : ℚ) ≤ (left : ℚ) / denominator :=
    div_nonneg (Nat.cast_nonneg left) positiveCast.le
  have below : (whole : ℚ) ≤ whole + (left : ℚ) / denominator := by linarith
  have above : (whole : ℚ) + (left : ℚ) / denominator < whole + 1 := by
    linarith
  have distance :
      (whole : ℚ) + (left : ℚ) / denominator - whole = left / denominator :=
    add_sub_cancel_left _ _
  by_cases early : 2 * left < denominator
  · have near : (left : ℚ) / denominator < 1 / 2 := by
      rw [div_lt_div_iff₀ positiveCast two_pos, one_mul, mul_comm]
      exact_mod_cast early
    rw [if_pos early]
    apply isNearest_floor below above
    · linarith
    · intro half
      linarith
  · rw [if_neg early]
    by_cases late : denominator < 2 * left
    · have far : 1 / 2 < (left : ℚ) / denominator := by
        rw [div_lt_div_iff₀ two_pos positiveCast, one_mul, mul_comm]
        exact_mod_cast late
      rw [if_pos late]
      apply isNearest_ceiling below above
      · linarith
      · intro half
        linarith
    · have half : (left : ℚ) / denominator = 1 / 2 := by
        rw [div_eq_div_iff positiveCast.ne' two_ne_zero, one_mul, mul_comm]
        exact_mod_cast (by omega : 2 * left = denominator)
      rw [if_neg late]
      rcases Nat.mod_two_eq_zero_or_one whole with even | odd
      · rw [even, Nat.add_zero]
        apply isNearest_floor below above
        · linarith
        · exact fun _ => even
      · rw [odd]
        apply isNearest_ceiling below above
        · linarith
        · exact fun _ => by omega

/-! ## The grid -/

/-- A magnitude of at most fifty-three significant bits. -/
def OnGrid (units : Nat) : Prop :=
  ∃ significand exponent,
    significand < 2 ^ 53 ∧ units = significand * 2 ^ exponent

/-- The last significant bit is zero, so half the significand will do. -/
def HasEvenBit (units : Nat) : Prop :=
  ∃ half exponent, half ≤ 2 ^ 52 ∧ units = half * 2 ^ (exponent + 1)

/-- A magnitude is what an exact one is rounded to when it is on the grid, no
point of the grid is nearer, and its last bit is even if another is as near. -/
structure RoundsTo (exact : ℚ) (units : Nat) : Prop where
  onGrid : OnGrid units
  nearest :
    ∀ other, OnGrid other → |(units : ℚ) - exact| ≤ |(other : ℚ) - exact|
  even :
    ∀ other, OnGrid other → other ≠ units →
      |(units : ℚ) - exact| = |(other : ℚ) - exact| → HasEvenBit units

theorem onGrid_of_le {significand : Nat} (small : significand ≤ 2 ^ 53)
    (exponent : Nat) : OnGrid (significand * 2 ^ exponent) := by
  rcases Nat.lt_or_eq_of_le small with fits | full
  · exact ⟨significand, exponent, fits, rfl⟩
  · refine ⟨1, 53 + exponent, by decide, ?_⟩
    rw [full, Nat.pow_add, Nat.one_mul]

theorem onGrid_zero : OnGrid 0 :=
  ⟨0, 0, by decide, rfl⟩

/-- Below the greatest power of two that is not above a magnitude, its gap may
be too wide for the grid. Above that power every point of the grid is a
multiple of the gap. -/
theorem OnGrid.eq_mul_or_lt {units : Nat} (onGrid : OnGrid units)
    (gap : Nat) :
    (∃ factor, units = factor * 2 ^ gap) ∨ 0 < gap ∧ units < 2 ^ (52 + gap) := by
  obtain ⟨significand, exponent, small, rfl⟩ := onGrid
  rcases Nat.lt_or_ge exponent gap with fine | coarse
  · right
    refine ⟨by omega, ?_⟩
    calc significand * 2 ^ exponent
        < 2 ^ 53 * 2 ^ exponent :=
          Nat.mul_lt_mul_of_pos_right small (Nat.two_pow_pos exponent)
      _ = 2 ^ (53 + exponent) := (Nat.pow_add 2 53 exponent).symm
      _ ≤ 2 ^ (52 + gap) := Nat.pow_le_pow_right Nat.two_pos (by omega)
  · left
    refine ⟨significand * 2 ^ (exponent - gap), ?_⟩
    rw [Nat.mul_assoc, ← Nat.pow_add, Nat.sub_add_cancel coarse]

/-! ## Rounding a quotient -/

theorem lt_two_pow_gapExponent (units : Nat) :
    units < 2 ^ (53 + gapExponent units) := by
  have fits : units.log2 + 1 ≤ 53 + gapExponent units := by
    unfold gapExponent
    omega
  exact Nat.lt_of_lt_of_le Nat.lt_log2_self
    (Nat.pow_le_pow_right Nat.two_pos fits)

theorem two_pow_le_of_gapExponent_pos {units : Nat}
    (wide : 0 < gapExponent units) : 2 ^ (52 + gapExponent units) ≤ units := by
  have exponent : 52 + gapExponent units = units.log2 := by
    unfold gapExponent at wide ⊢
    omega
  have nonzero : units ≠ 0 := by
    rintro rfl
    exact absurd wide (by decide)
  rw [exponent]
  exact Nat.log2_self_le nonzero

theorem abs_mul_two_pow_sub (exact : ℚ) (factor gap : Nat) :
    |((factor * 2 ^ gap : Nat) : ℚ) - exact| =
      |(factor : ℚ) - exact / 2 ^ gap| * 2 ^ gap := by
  have positive : (0 : ℚ) < 2 ^ gap := pow_pos two_pos gap
  have scaled :
      ((factor * 2 ^ gap : Nat) : ℚ) - exact =
        ((factor : ℚ) - exact / 2 ^ gap) * 2 ^ gap := by
    rw [sub_mul, div_mul_cancel₀ _ positive.ne']
    push_cast
    rfl
  rw [scaled, abs_mul, abs_of_pos positive]

/-- A multiple of the gap that is nearest among the multiples is nearest on the
whole grid, since the finer points of the grid all lie below the same
multiple. -/
theorem roundsTo_of_isNearest {exact : ℚ} {gap factor : Nat}
    (nearest : IsNearest (exact / 2 ^ gap) factor)
    (small : factor ≤ 2 ^ 53)
    (coarse : 0 < gap → ((2 ^ (52 + gap) : Nat) : ℚ) ≤ exact) :
    RoundsTo exact (factor * 2 ^ gap) := by
  have positive : (0 : ℚ) < 2 ^ gap := pow_pos two_pos gap
  have amongMultiples (other : Nat) :
      |((factor * 2 ^ gap : Nat) : ℚ) - exact| ≤
        |((other * 2 ^ gap : Nat) : ℚ) - exact| := by
    rw [abs_mul_two_pow_sub, abs_mul_two_pow_sub]
    exact mul_le_mul_of_nonneg_right (nearest.nearest other) positive.le
  have belowFiner {other : Nat} (wide : 0 < gap)
      (finer : other < 2 ^ (52 + gap)) :
      |((factor * 2 ^ gap : Nat) : ℚ) - exact| < |(other : ℚ) - exact| := by
    have reached := coarse wide
    have cast : (other : ℚ) < (2 ^ (52 + gap) : Nat) := Nat.cast_lt.2 finer
    have power := amongMultiples (2 ^ 52)
    rw [← Nat.pow_add,
      abs_sub_comm ((2 ^ (52 + gap) : Nat) : ℚ) exact,
      abs_of_nonneg (sub_nonneg.2 reached)] at power
    rw [abs_sub_comm (other : ℚ) exact,
      abs_of_nonneg (by linarith : (0 : ℚ) ≤ exact - other)]
    linarith
  constructor
  · exact onGrid_of_le small gap
  · intro other onGrid
    rcases onGrid.eq_mul_or_lt gap with ⟨multiple, rfl⟩ | ⟨wide, finer⟩
    · exact amongMultiples multiple
    · exact (belowFiner wide finer).le
  · intro other onGrid different same
    rcases onGrid.eq_mul_or_lt gap with ⟨multiple, rfl⟩ | ⟨wide, finer⟩
    · rw [abs_mul_two_pow_sub, abs_mul_two_pow_sub] at same
      have sameDistance := mul_right_cancel₀ positive.ne' same
      have otherFactor : multiple ≠ factor := by
        rintro rfl
        exact different rfl
      have even := nearest.even multiple otherFactor sameDistance
      refine ⟨factor / 2, gap, by omega, ?_⟩
      rw [Nat.pow_succ, Nat.mul_comm (2 ^ gap) 2, ← Nat.mul_assoc,
        Nat.div_mul_cancel (Nat.dvd_of_mod_eq_zero even)]
    · exact absurd same (belowFiner wide finer).ne

theorem roundsTo_roundUnits (numerator : Nat) {denominator : Nat}
    (positive : 0 < denominator) :
    RoundsTo ((numerator : ℚ) / denominator)
      (roundUnits numerator denominator) := by
  have powers (exponent : Nat) : Nat.pow 2 exponent = 2 ^ exponent := rfl
  simp only [roundUnits, powers]
  have small := lt_two_pow_gapExponent (numerator / denominator)
  have large := @two_pow_le_of_gapExponent_pos (numerator / denominator)
  generalize gapExponent (numerator / denominator) = gap at small large
  have positiveScaled : 0 < denominator * 2 ^ gap :=
    Nat.mul_pos positive (Nat.two_pow_pos gap)
  have factorSmall : nearestEven numerator (denominator * 2 ^ gap) ≤ 2 ^ 53 := by
    have fits : numerator / (denominator * 2 ^ gap) < 2 ^ 53 := by
      rw [← Nat.div_div_eq_div_mul, Nat.div_lt_iff_lt_mul (Nat.two_pow_pos gap),
        ← Nat.pow_add]
      exact small
    exact Nat.le_trans (nearestEven_le numerator _) fits
  have nearest := isNearest_nearestEven numerator positiveScaled
  push_cast at nearest
  rw [← div_div] at nearest
  apply roundsTo_of_isNearest nearest factorSmall
  intro wide
  calc ((2 ^ (52 + gap) : Nat) : ℚ)
      ≤ (numerator / denominator : Nat) := Nat.cast_le.2 (large wide)
    _ ≤ (numerator : ℚ) / denominator := Nat.cast_div_le

/-! ## Zero and the limit -/

theorem hasEvenBit_zero : HasEvenBit 0 :=
  ⟨0, 0, Nat.zero_le _, (Nat.zero_mul _).symm⟩

theorem roundsTo_zero {exact : ℚ} (nonnegative : 0 ≤ exact)
    (small : exact ≤ 1 / 2) : RoundsTo exact 0 := by
  constructor
  · exact onGrid_zero
  · intro other _
    rcases Nat.eq_zero_or_pos other with rfl | positive
    · exact le_refl _
    · have cast : ((1 : Nat) : ℚ) ≤ other := Nat.cast_le.2 positive
      push_cast at cast
      rw [Nat.cast_zero, abs_sub_comm, abs_of_nonneg (by linarith),
        abs_of_nonneg (by linarith)]
      linarith
  · intro _ _ _ _
    exact hasEvenBit_zero

/-- Points of the grid below a power of two keep a gap from it. -/
theorem OnGrid.le_of_lt_two_pow {units gap : Nat} (onGrid : OnGrid units)
    (below : units < 2 ^ 53 * 2 ^ gap) :
    units ≤ (2 ^ 53 - 1) * 2 ^ gap := by
  rcases onGrid.eq_mul_or_lt gap with ⟨factor, rfl⟩ | ⟨_, finer⟩
  · have factorBelow : factor < 2 ^ 53 :=
      Nat.lt_of_mul_lt_mul_right below
    exact Nat.mul_le_mul_right _ (Nat.le_pred_of_lt factorBelow)
  · rw [Nat.pow_add] at finer
    exact Nat.le_trans finer.le (Nat.mul_le_mul_right _ (by decide))

/-- An odd significand that needs all its bits, or that no power of two
follows, is not that of a magnitude with an even last bit. -/
theorem not_hasEvenBit {significand gap : Nat} (odd : significand % 2 = 1)
    (full : 2 ^ 52 < significand ∨ gap = 0) :
    ¬ HasEvenBit (significand * 2 ^ gap) := by
  rintro ⟨half, exponent, small, same⟩
  rcases Nat.lt_or_ge exponent gap with wide | narrow
  · obtain ⟨more, rfl⟩ : ∃ more, gap = more + (exponent + 1) :=
      ⟨gap - (exponent + 1), by omega⟩
    rw [Nat.pow_add, ← Nat.mul_assoc] at same
    have large := Nat.eq_of_mul_eq_mul_right (Nat.two_pow_pos _) same
    have atLeast := Nat.le_mul_of_pos_right significand (Nat.two_pow_pos more)
    omega
  · obtain ⟨more, rfl⟩ : ∃ more, exponent = more + gap :=
      ⟨exponent - gap, by omega⟩
    have regrouped :
        half * 2 ^ (more + gap + 1) = half * 2 ^ more * 2 * 2 ^ gap := by
      rw [Nat.add_right_comm, Nat.pow_add, Nat.pow_succ, ← Nat.mul_assoc,
        ← Nat.mul_assoc]
    rw [regrouped] at same
    have even := Nat.eq_of_mul_eq_mul_right (Nat.two_pow_pos gap) same
    omega

/-- A magnitude is rounded to a power of two or beyond when it is at least as
near to that power as to the point of the grid in front of it. -/
theorem RoundsTo.lt_two_pow_iff {exact : ℚ} {units gap : Nat}
    (roundsTo : RoundsTo exact units) :
    units < 2 ^ 53 * 2 ^ (gap + 1) ↔
      exact < 2 ^ 53 * 2 ^ (gap + 1) - 2 ^ gap := by
  have last : OnGrid ((2 ^ 53 - 1) * 2 ^ (gap + 1)) :=
    onGrid_of_le (by decide) (gap + 1)
  have first : OnGrid (2 ^ 53 * 2 ^ (gap + 1)) :=
    onGrid_of_le (Nat.le_refl _) (gap + 1)
  have positive : (0 : ℚ) < 2 ^ gap := pow_pos two_pos gap
  have doubled : (2 : ℚ) ^ (gap + 1) = 2 * 2 ^ gap := by
    rw [pow_succ, mul_comm]
  have lastValue :
      (((2 ^ 53 - 1) * 2 ^ (gap + 1) : Nat) : ℚ) =
        2 ^ 53 * 2 ^ (gap + 1) - 2 * 2 ^ gap := by
    rw [← doubled]
    push_cast
    norm_num
    ring
  have firstValue :
      ((2 ^ 53 * 2 ^ (gap + 1) : Nat) : ℚ) = 2 ^ 53 * 2 ^ (gap + 1) := by
    push_cast
    rfl
  have toLast := roundsTo.nearest _ last
  have toFirst := roundsTo.nearest _ first
  constructor
  · intro below
    have atMost : (units : ℚ) ≤ ((2 ^ 53 - 1) * 2 ^ (gap + 1) : Nat) :=
      Nat.cast_le.2 (roundsTo.onGrid.le_of_lt_two_pow below)
    by_contra beyond
    have far : (2 : ℚ) ^ 53 * 2 ^ (gap + 1) - 2 ^ gap ≤ exact :=
      not_lt.1 beyond
    rw [abs_sub_comm (units : ℚ) exact,
      abs_of_nonneg (by linarith : (0 : ℚ) ≤ exact - units)] at toFirst
    rw [firstValue] at toFirst
    rcases lt_or_ge exact (2 ^ 53 * 2 ^ (gap + 1)) with inside | outside
    · rw [abs_of_nonneg (by linarith)] at toFirst
      -- Only half way between the two points are both sides as near.
      have isLast : units = (2 ^ 53 - 1) * 2 ^ (gap + 1) := by
        have sameValue :
            (units : ℚ) = ((2 ^ 53 - 1) * 2 ^ (gap + 1) : Nat) := by
          linarith
        exact_mod_cast sameValue
      have tie :
          |(units : ℚ) - exact| =
            |((2 ^ 53 * 2 ^ (gap + 1) : Nat) : ℚ) - exact| := by
        rw [abs_sub_comm (units : ℚ) exact,
          abs_of_nonneg (by linarith : (0 : ℚ) ≤ exact - units), firstValue,
          abs_of_nonneg (by linarith)]
        linarith
      have evenBit := roundsTo.even _ first below.ne' tie
      rw [isLast] at evenBit
      exact not_hasEvenBit (by decide) (Or.inl (by decide)) evenBit
    · rw [abs_sub_comm, abs_of_nonneg (by linarith)] at toFirst
      linarith
  · intro near
    by_contra beyond
    have reached : ((2 ^ 53 * 2 ^ (gap + 1) : Nat) : ℚ) ≤ units :=
      Nat.cast_le.2 (Nat.le_of_not_lt beyond)
    rw [firstValue] at reached
    rw [abs_of_nonneg (by linarith : (0 : ℚ) ≤ units - exact), lastValue]
      at toLast
    rcases le_total exact (2 ^ 53 * 2 ^ (gap + 1) - 2 * 2 ^ gap) with
      before | behind
    · rw [abs_of_nonneg (by linarith)] at toLast
      linarith
    · rw [abs_sub_comm, abs_of_nonneg (by linarith)] at toLast
      linarith

end Preflight.Binary64
