/-!
# Binary floating point numbers of 64 bits

A number is its bit pattern: a sign bit, an exponent field of eleven bits and
a fraction of fifty-two. Every finite number is a whole multiple of the least
positive one, `2 ^ -1074`, so its magnitude is a natural number of *units*,
and all arithmetic on magnitudes is exact arithmetic on natural numbers.
-/

namespace Preflight

/-- A binary floating point number, given by its bits. -/
structure Binary64 where
  bits : UInt64
  deriving DecidableEq, Repr

namespace Binary64

/-- Whether the sign bit is set. Zero and the numbers that are not finite have
a sign too. -/
def isNegative (x : Binary64) : Bool :=
  Nat.pow 2 63 ≤ x.bits.toNat

def exponentField (x : Binary64) : Nat :=
  x.bits.toNat / Nat.pow 2 52 % Nat.pow 2 11

def fraction (x : Binary64) : Nat :=
  x.bits.toNat % Nat.pow 2 52

/-- The greatest exponent field, kept for the infinities and for what is not a
number. -/
def specialField : Nat := 2047

def isFinite (x : Binary64) : Bool :=
  x.exponentField != specialField

def isNaN (x : Binary64) : Bool :=
  x.exponentField == specialField && x.fraction != 0

def isInfinite (x : Binary64) : Bool :=
  x.exponentField == specialField && x.fraction == 0

def isZero (x : Binary64) : Bool :=
  x.exponentField == 0 && x.fraction == 0

/-- How many units make one. -/
def unitsPerOne : Nat := Nat.pow 2 1074

/-- The magnitude of a finite number in units. A zero exponent field marks the
numbers below `2 ^ -1022`; all others have a leading one in front of their
fraction. -/
def units (x : Binary64) : Nat :=
  if x.exponentField = 0 then x.fraction
  else (Nat.pow 2 52 + x.fraction) * Nat.pow 2 (x.exponentField - 1)

/-- The first magnitude, in units, that is too great for a finite number. -/
def unitsLimit : Nat := Nat.pow 2 2098

/-- The exponent of the gap between a magnitude and the next greater one: a
magnitude has at most fifty-three significant bits. -/
def gapExponent (units : Nat) : Nat :=
  units.log2 - 52

/-- The number with this sign and magnitude, for a magnitude below the limit
of at most fifty-three significant bits. -/
def ofUnits (negative : Bool) (units : Nat) : Binary64 :=
  let sign := if negative then Nat.pow 2 63 else 0
  let magnitude :=
    if units < Nat.pow 2 52 then units
    else
      gapExponent units * Nat.pow 2 52 +
        units / Nat.pow 2 (gapExponent units)
  ⟨UInt64.ofNat (sign + magnitude)⟩

def infinity : Binary64 := ⟨0x7ff0000000000000⟩

def negativeInfinity : Binary64 := ⟨0xfff0000000000000⟩

/-- One of the patterns that are not a number. -/
def notANumber : Binary64 := ⟨0x7ff8000000000000⟩

/-- Positive and finite: the numbers that can serve as a divisor of counts. -/
def isPositive (x : Binary64) : Bool :=
  x.isFinite && !x.isNegative && !x.isZero

end Binary64

end Preflight
