import Preflight.Binary64.Rounding

/-!
# Bounds of rounding

A quotient is rounded to its floor or to the whole number behind it. The powers
that scale magnitudes are positive.
-/

namespace Preflight.Binary64

theorem nearestEven_le (numerator denominator : Nat) :
    nearestEven numerator denominator ≤ numerator / denominator + 1 := by
  have lastBit : numerator / denominator % 2 < 2 :=
    Nat.mod_lt _ Nat.zero_lt_two
  simp only [nearestEven]
  split
  · omega
  · split <;> omega

theorem le_nearestEven (numerator denominator : Nat) :
    numerator / denominator ≤ nearestEven numerator denominator := by
  simp only [nearestEven]
  split
  · exact Nat.le_refl _
  · split
    · exact Nat.le_succ _
    · exact Nat.le_add_right _ _

theorem two_pow_pos (exponent : Nat) : 0 < Nat.pow 2 exponent :=
  Nat.pow_pos (by decide)

theorem unitsPerOne_pos : 0 < unitsPerOne := by
  unfold unitsPerOne
  generalize 1074 = exponent
  exact two_pow_pos exponent

end Preflight.Binary64
