import Preflight.Proofs.Binary64.Accuracy
import Preflight.Proofs.Binary64.Decimal

/-!
# Words as numbers

Rounding keeps the order, so a word is rounded to a number between the points
of the grid around it. The words of up to fifty-three bits are on the grid.
-/

namespace Preflight.Binary64

/-! ## Rounding keeps the order -/

section Order

variable {exact : ℚ} {units point : Nat} (rounded : RoundsTo exact units)
  (onGrid : OnGrid point)

include rounded onGrid

theorem RoundsTo.point_le (below : (point : ℚ) ≤ exact) : point ≤ units := by
  by_contra further
  have cast : (units : ℚ) < point := Nat.cast_lt.2 (Nat.lt_of_not_le further)
  have nearest := rounded.nearest point onGrid
  rw [abs_sub_comm (units : ℚ), abs_sub_comm (point : ℚ),
    abs_of_nonneg (by linarith), abs_of_nonneg (by linarith)] at nearest
  linarith

theorem RoundsTo.le_point (above : exact ≤ point) : units ≤ point := by
  by_contra further
  have cast : (point : ℚ) < units := Nat.cast_lt.2 (Nat.lt_of_not_le further)
  have nearest := rounded.nearest point onGrid
  rw [abs_of_nonneg (by linarith), abs_of_nonneg (by linarith)] at nearest
  linarith

theorem RoundsTo.eq_point (same : exact = point) : units = point :=
  Nat.le_antisymm (rounded.le_point onGrid same.le)
    (rounded.point_le onGrid same.ge)

end Order

theorem RoundsTo.eq_zero {exact : ℚ} {units : Nat}
    (rounded : RoundsTo exact units) (nonnegative : 0 ≤ exact)
    (small : exact < 1 / 2) : units = 0 := by
  have nearest := (abs_sub_le_iff.1 (rounded.nearest 0 onGrid_zero)).1
  rw [Nat.cast_zero, zero_sub, abs_neg, abs_of_nonneg nonnegative] at nearest
  have lessThanOne : (units : ℚ) < (1 : Nat) := by
    rw [Nat.cast_one]
    linarith
  exact Nat.lt_one_iff.1 (Nat.cast_lt.1 lessThanOne)

theorem exists_unitsPerOne_eq :
    ∃ places, (52 ≤ places ∧ places ≤ 1074) ∧ unitsPerOne = 2 ^ places := by
  have exponents : 52 ≤ 1074 ∧ 1074 ≤ 1074 := by decide
  refine ⟨1074, exponents, ?_⟩
  unfold unitsPerOne
  generalize 1074 = exponent
  rfl

theorem two_pow_le_unitsPerOne : 2 ^ 52 ≤ unitsPerOne := by
  obtain ⟨places, ⟨wide, _⟩, one⟩ := exists_unitsPerOne_eq
  rw [one]
  exact Nat.pow_le_pow_right Nat.two_pos wide

/-- Numbers with a short significand are on the grid. -/
theorem onGrid_mul_unitsPerOne {significand : Nat}
    (small : significand ≤ 2 ^ 53) (exponent : Nat) :
    OnGrid (significand * 2 ^ exponent * unitsPerOne) := by
  obtain ⟨places, _, one⟩ := exists_unitsPerOne_eq
  rw [one, Nat.mul_assoc, ← Nat.pow_add]
  exact onGrid_of_le small _

theorem onGrid_two_pow_mul_unitsPerOne (exponent : Nat) :
    OnGrid (2 ^ exponent * unitsPerOne) := by
  have power := onGrid_mul_unitsPerOne (by decide : 1 ≤ 2 ^ 53) exponent
  rwa [Nat.one_mul] at power

theorem onGrid_two_pow (exponent : Nat) : OnGrid (2 ^ exponent) :=
  ⟨1, exponent, by decide, (Nat.one_mul _).symm⟩

theorem onGrid_unitsPerOne : OnGrid unitsPerOne := by
  obtain ⟨places, _, one⟩ := exists_unitsPerOne_eq
  rw [one]
  exact onGrid_two_pow places

/-! ## Words -/

theorem roundsTo_unitsOfNat (n : Nat) :
    RoundsTo ((n : ℚ) * unitsPerOne) (unitsOfNat n) := by
  have rounded := roundsTo_roundUnits (n * unitsPerOne) Nat.one_pos
  rwa [Nat.cast_one, div_one, Nat.cast_mul] at rounded

theorem unitsOfNat_zero : unitsOfNat 0 = 0 := by
  apply (roundsTo_unitsOfNat 0).eq_point onGrid_zero
  rw [Nat.cast_zero, zero_mul]

theorem unitsPerOne_le_unitsOfNat {n : Nat} (nonzero : n ≠ 0) :
    unitsPerOne ≤ unitsOfNat n := by
  apply (roundsTo_unitsOfNat n).point_le onGrid_unitsPerOne
  have atLeast : ((1 : Nat) : ℚ) ≤ n :=
    Nat.cast_le.2 (Nat.pos_of_ne_zero nonzero)
  rw [Nat.cast_one] at atLeast
  exact le_mul_of_one_le_left cast_unitsPerOne_pos.le atLeast

theorem near_unitsOfNat (n : Nat) :
    Near 1 0 ((n : ℚ) * unitsPerOne) (unitsOfNat n) := by
  by_cases zero : n = 0
  · have nothing := Near.of_eq 0
    rw [zero, unitsOfNat_zero, Nat.cast_zero, zero_mul]
    exact nothing.weaken (le_refl 0) (le_refl 0) (le_refl 0) (Nat.zero_le 1)
      (le_refl 0)
  · have large : 2 ^ 52 ≤ n * unitsPerOne / 1 := by
      rw [Nat.div_one]
      exact Nat.le_trans two_pow_le_unitsPerOne
        (Nat.le_mul_of_pos_left _ (Nat.pos_of_ne_zero zero))
    have near := near_roundUnits (n * unitsPerOne) Nat.one_pos large
    rwa [Nat.cast_one, div_one, Nat.cast_mul] at near

theorem unitsOfNat_eq_zero_iff {word : Nat} :
    unitsOfNat word = 0 ↔ word = 0 := by
  constructor
  · intro nothing
    by_contra nonzero
    have atLeast := unitsPerOne_le_unitsOfNat nonzero
    rw [nothing] at atLeast
    exact absurd unitsPerOne_pos (Nat.not_lt.2 atLeast)
  · rintro rfl
    exact unitsOfNat_zero

theorem unitsOfNat_of_short {word : Nat} (short : word ≤ 2 ^ 53) :
    unitsOfNat word = word * unitsPerOne := by
  apply (roundsTo_unitsOfNat word).eq_point
  · have onGrid := onGrid_mul_unitsPerOne short 0
    rwa [pow_zero, Nat.mul_one] at onGrid
  · exact (Nat.cast_mul word unitsPerOne).symm

theorem two_pow_mul_unitsPerOne_lt : 2 ^ 64 * unitsPerOne < unitsLimit := by
  obtain ⟨places, ⟨_, few⟩, one⟩ := exists_unitsPerOne_eq
  have exponents : 64 + places < 2098 := by omega
  unfold unitsLimit
  generalize 2098 = exponent at exponents ⊢
  rw [one, ← Nat.pow_add]
  exact Nat.pow_lt_pow_right (by decide) exponents

/-- The number nearest to a word. -/
def ofWord (word : Nat) : Binary64 :=
  ofUnits false (unitsOfNat word)

section Word

variable {word : Nat} (small : word ≤ 2 ^ 64)

include small

theorem unitsOfNat_le : unitsOfNat word ≤ 2 ^ 64 * unitsPerOne := by
  apply (roundsTo_unitsOfNat word).le_point (onGrid_two_pow_mul_unitsPerOne 64)
  have cast : (word : ℚ) ≤ (2 ^ 64 : Nat) := Nat.cast_le.2 small
  rw [Nat.cast_mul]
  exact mul_le_mul_of_nonneg_right cast cast_unitsPerOne_pos.le

theorem unitsOfNat_lt_unitsLimit : unitsOfNat word < unitsLimit :=
  Nat.lt_of_le_of_lt (unitsOfNat_le small) two_pow_mul_unitsPerOne_lt

theorem units_ofWord : (ofWord word).units = unitsOfNat word :=
  units_ofUnits (unitsOfNat_lt_unitsLimit small)
    (roundsTo_unitsOfNat word).onGrid false

theorem isNegative_ofWord : (ofWord word).isNegative = false :=
  isNegative_ofUnits (unitsOfNat_lt_unitsLimit small) false

theorem isNearestTo_ofWord : (ofWord word).IsNearestTo word := by
  have nearest :=
    (roundsTo_unitsOfNat word).isNearestTo_ofUnits
      (unitsOfNat_lt_unitsLimit small) false (Nat.cast_nonneg word)
  rwa [signed_false] at nearest

end Word

theorem toRat_ofWord {word : Nat} (short : word ≤ 2 ^ 53) :
    (ofWord word).toRat = word := by
  have small : word ≤ 2 ^ 64 := Nat.le_trans short (by decide)
  rw [toRat_of_not_isNegative (isNegative_ofWord small), units_ofWord small,
    unitsOfNat_of_short short, Nat.cast_mul,
    mul_div_cancel_right₀ _ cast_unitsPerOne_pos.ne']

end Preflight.Binary64
