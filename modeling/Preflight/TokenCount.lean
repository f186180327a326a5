import Preflight.Binary64.Rounding
import Preflight.Count
import Preflight.Fault

/-!
# Token counts

Tokens are estimated from the number of characters. The comparative count
scales the estimate by a ratio in floating point: the estimate becomes the
nearest number, the quotient is the nearest number to the exact one, and the
result is the nearest whole number to that, halves going up.
-/

namespace Preflight.TokenCount

/-- The number of tokens for a number of characters: the quotient, rounded
up. -/
def estimate (chars charsPerToken : Nat) : Except Fault Nat :=
  if charsPerToken = 0 then .error .quotientByZero
  else
    .ok (chars / charsPerToken + if chars % charsPerToken = 0 then 0 else 1)

/-- The whole number nearest to a magnitude in units, halves going up, and no
greater than the greatest count. -/
def roundToCount (units : Nat) : Nat :=
  min maxCount ((units + Binary64.unitsPerOne / 2) / Binary64.unitsPerOne)

/-- The comparative count for an estimate. A quotient below zero, or one that
is not a number, counts as zero; division by zero of a positive estimate gives
the greatest count. -/
def comparative (tokens : Nat) (ratio : Binary64) : Nat :=
  if ratio.isNegative || !ratio.isFinite then 0
  else
    let dividend := Binary64.unitsOfNat tokens
    if ratio.isZero then if dividend = 0 then 0 else maxCount
    else
      roundToCount
        (Binary64.roundUnits (dividend * Binary64.unitsPerOne) ratio.units)

end Preflight.TokenCount
