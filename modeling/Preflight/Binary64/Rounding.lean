import Preflight.Binary64.Basic

/-!
# Rounding to binary floating point

An exact quotient of natural numbers is rounded to the nearest magnitude; of
two equally near ones the one with an even last bit is taken. Reading a
decimal and dividing two numbers are both such a rounding.
-/

namespace Preflight.Binary64

/-- The whole number nearest to a quotient, halves going to the even one. -/
def nearestEven (numerator denominator : Nat) : Nat :=
  let whole := numerator / denominator
  let twice := 2 * (numerator % denominator)
  if twice < denominator then whole
  else if denominator < twice then whole + 1
  else whole + whole % 2

/-- The magnitude, in units, nearest to a quotient of units. There is no upper
limit: overflow is left to the caller. -/
def roundUnits (numerator denominator : Nat) : Nat :=
  let gap := Nat.pow 2 (gapExponent (numerator / denominator))
  nearestEven numerator (denominator * gap) * gap

/-- The magnitude, in units, nearest to a natural number. -/
def unitsOfNat (n : Nat) : Nat :=
  roundUnits (n * unitsPerOne) 1

def decimalLength (n : Nat) : Nat :=
  (Nat.toDigits 10 n).length

/-- Decimal exponents of the leading digit outside this bound leave the range
of the format for good: above it everything overflows, below it everything
rounds to zero. -/
def decimalBound : Int := 400

/-- The magnitude, in units, nearest to `coefficient * 10 ^ exponent`, or none
if it is too great. -/
def unitsOfDecimal? (coefficient : Nat) (exponent : Int) : Option Nat :=
  let leading := exponent + decimalLength coefficient
  if coefficient = 0 || leading < -decimalBound then some 0
  else if decimalBound < leading then none
  else
    let units :=
      roundUnits (coefficient * Nat.pow 10 exponent.toNat * unitsPerOne)
        (Nat.pow 10 (-exponent).toNat)
    if units < unitsLimit then some units else none

/-- The number nearest to a decimal, with the sign given, or none if its
magnitude is too great. -/
def ofDecimal? (negative : Bool) (coefficient : Nat) (exponent : Int) :
    Option Binary64 :=
  (unitsOfDecimal? coefficient exponent).map (ofUnits negative)

end Preflight.Binary64
