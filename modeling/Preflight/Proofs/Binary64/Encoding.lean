import Preflight.Proofs.Binary64.Nearest
import Preflight.Proofs.Binary64.Value

/-!
# Bit patterns of magnitudes

Every magnitude of the grid below the limit has a bit pattern for either sign,
and the magnitude of every number is on the grid.
-/

namespace Preflight.Binary64

theorem pow_two_fraction : Nat.pow 2 52 = 4503599627370496 := by decide

theorem pow_two_field : Nat.pow 2 11 = 2048 := by decide

theorem pow_two_sign : Nat.pow 2 63 = 9223372036854775808 := by decide

/-! ## Fields -/

/-- A sign bit in front of a field and a fraction. -/
def pack (negative : Bool) (magnitude : Nat) : Binary64 :=
  ⟨UInt64.ofNat ((if negative then Nat.pow 2 63 else 0) + magnitude)⟩

section Pack

variable {negative : Bool} {magnitude : Nat} (fits : magnitude < Nat.pow 2 63)

include fits

theorem toNat_pack :
    (pack negative magnitude).bits.toNat =
      (if negative then Nat.pow 2 63 else 0) + magnitude := by
  rw [pack, UInt64.toNat_ofNat']
  apply Nat.mod_eq_of_lt
  rw [pow_two_sign] at fits ⊢
  cases negative <;> simp <;> omega

theorem isNegative_pack : (pack negative magnitude).isNegative = negative := by
  rw [isNegative, toNat_pack fits]
  cases negative with
  | false => simpa using fits
  | true => simp

theorem exponentField_pack :
    (pack negative magnitude).exponentField = magnitude / Nat.pow 2 52 := by
  rw [exponentField, toNat_pack fits, pow_two_fraction, pow_two_field,
    pow_two_sign]
  rw [pow_two_sign] at fits
  cases negative <;> simp <;> omega

theorem fraction_pack :
    (pack negative magnitude).fraction = magnitude % Nat.pow 2 52 := by
  rw [fraction, toNat_pack fits, pow_two_fraction, pow_two_sign]
  cases negative with
  | false => simp
  | true =>
      simp only [if_true]
      omega

end Pack

/-! ## Magnitudes -/

/-- The field and the fraction of a magnitude, next to each other. -/
def packed (units : Nat) : Nat :=
  if units < Nat.pow 2 52 then units
  else
    gapExponent units * Nat.pow 2 52 + units / Nat.pow 2 (gapExponent units)

theorem ofUnits_eq_pack (negative : Bool) (units : Nat) :
    ofUnits negative units = pack negative (packed units) := rfl

section Large

variable {units : Nat} (large : Nat.pow 2 52 ≤ units)

include large

theorem two_pow_gapExponent_le_of_large :
    2 ^ (52 + gapExponent units) ≤ units := by
  have nonzero : units ≠ 0 := by
    rintro rfl
    exact absurd large (by decide)
  have exponent : 52 + gapExponent units = units.log2 := by
    have logarithm := (Nat.le_log2 nonzero).2 large
    unfold gapExponent
    omega
  rw [exponent]
  exact Nat.log2_self_le nonzero

/-- The significand has its leading one in front of the fraction. -/
theorem significand_bounds :
    Nat.pow 2 52 ≤ units / Nat.pow 2 (gapExponent units) ∧
      units / Nat.pow 2 (gapExponent units) < 2 * Nat.pow 2 52 := by
  have lower := two_pow_gapExponent_le_of_large large
  have upper := lt_two_pow_gapExponent units
  have positive := two_pow_pos (gapExponent units)
  constructor
  · rw [Nat.le_div_iff_mul_le positive]
    rw [Nat.pow_add] at lower
    exact lower
  · rw [Nat.div_lt_iff_lt_mul positive]
    rw [Nat.pow_add] at upper
    exact upper

theorem gapExponent_le_of_lt_unitsLimit (small : units < unitsLimit) :
    gapExponent units ≤ 2045 := by
  have lower := two_pow_gapExponent_le_of_large large
  have power := Nat.lt_of_le_of_lt lower small
  have limit : 2098 ≤ 52 + 2046 := by decide
  unfold unitsLimit at power
  generalize 2098 = exponent at power limit
  have exponents := (Nat.pow_lt_pow_iff_right (by decide)).1 power
  omega

theorem significand_mul_gap (onGrid : OnGrid units) :
    units / Nat.pow 2 (gapExponent units) * Nat.pow 2 (gapExponent units) =
      units := by
  apply Nat.div_mul_cancel
  rcases onGrid.eq_mul_or_lt (gapExponent units) with
    ⟨factor, multiple⟩ | ⟨_, finer⟩
  · exact ⟨factor, multiple.trans (Nat.mul_comm _ _)⟩
  · exact absurd (two_pow_gapExponent_le_of_large large) (Nat.not_le.2 finer)

end Large

theorem packed_lt {units : Nat} (small : units < unitsLimit) :
    packed units < 2047 * Nat.pow 2 52 := by
  unfold packed
  split
  · omega
  · rename_i notSmall
    have large := Nat.le_of_not_lt notSmall
    have field := gapExponent_le_of_lt_unitsLimit large small
    have significand := (significand_bounds large).2
    have bound :=
      Nat.mul_le_mul_right (Nat.pow 2 52) field
    omega

theorem packed_fits {units : Nat} (small : units < unitsLimit) :
    packed units < Nat.pow 2 63 := by
  have bound := packed_lt small
  rw [pow_two_fraction] at bound
  rw [pow_two_sign]
  omega

section OfUnits

variable {units : Nat} (small : units < unitsLimit)

include small

theorem isNegative_ofUnits (negative : Bool) :
    (ofUnits negative units).isNegative = negative := by
  rw [ofUnits_eq_pack, isNegative_pack (packed_fits small)]

theorem isFinite_ofUnits (negative : Bool) :
    (ofUnits negative units).isFinite = true := by
  have field : packed units / Nat.pow 2 52 < 2047 :=
    (Nat.div_lt_iff_lt_mul (two_pow_pos 52)).2 (packed_lt small)
  rw [isFinite, ofUnits_eq_pack, exponentField_pack (packed_fits small),
    specialField, bne_iff_ne]
  omega

/-- A magnitude of the grid is found again in its bit pattern. -/
theorem units_ofUnits (onGrid : OnGrid units) (negative : Bool) :
    (ofUnits negative units).units = units := by
  have fits := packed_fits small
  rw [Binary64.units, ofUnits_eq_pack, exponentField_pack fits,
    fraction_pack fits]
  unfold packed
  by_cases below : units < Nat.pow 2 52
  · rw [if_pos below, if_pos (Nat.div_eq_of_lt below), Nat.mod_eq_of_lt below]
  · have large := Nat.le_of_not_lt below
    obtain ⟨lower, upper⟩ := significand_bounds large
    have whole := significand_mul_gap large onGrid
    rw [if_neg below]
    generalize units / Nat.pow 2 (gapExponent units) = significand
      at lower upper whole ⊢
    have positive := two_pow_pos 52
    obtain ⟨fraction, rfl⟩ := Nat.exists_eq_add_of_le lower
    have fractionSmall : fraction < Nat.pow 2 52 := by omega
    have regrouped :
        gapExponent units * Nat.pow 2 52 + (Nat.pow 2 52 + fraction) =
          fraction + (gapExponent units + 1) * Nat.pow 2 52 := by
      rw [Nat.add_mul]
      omega
    rw [regrouped, Nat.add_mul_div_right _ _ positive,
      Nat.add_mul_mod_self_right, Nat.div_eq_of_lt fractionSmall,
      Nat.mod_eq_of_lt fractionSmall, if_neg (by omega), Nat.zero_add,
      Nat.add_sub_cancel]
    exact whole

end OfUnits

/-! ## Numbers -/

theorem onGrid_units (x : Binary64) : OnGrid x.units := by
  have fractionSmall : x.fraction < Nat.pow 2 52 :=
    Nat.mod_lt _ (two_pow_pos 52)
  rw [pow_two_fraction] at fractionSmall
  unfold Binary64.units
  split
  · exact ⟨x.fraction, 0, by omega, (Nat.mul_one _).symm⟩
  · rw [pow_two_fraction]
    exact ⟨_, x.exponentField - 1, by omega, rfl⟩

end Preflight.Binary64
