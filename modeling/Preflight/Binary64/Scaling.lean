import Preflight.Binary64.Rounding

/-!
# Scaling by powers of ten

Magnitudes are multiplied and divided by powers of ten in floating point: the
powers up to the greatest one in the range are rounded first, and every product
and quotient is rounded again.
-/

namespace Preflight.Binary64

/-- The magnitude, in units, nearest to a product of magnitudes. There is no
upper limit. -/
def productUnits (first second : Nat) : Nat :=
  roundUnits (first * second) unitsPerOne

/-- The magnitude, in units, nearest to a quotient of magnitudes. -/
def quotientUnits (dividend divisor : Nat) : Nat :=
  roundUnits (dividend * unitsPerOne) divisor

/-- The greatest power of ten in the range of the format. -/
def greatestPower : Nat := 308

def unitsOfPower (exponent : Nat) : Nat :=
  unitsOfNat (Nat.pow 10 exponent)

/-- A magnitude divided by the greatest power several times, until nothing is
left of it. -/
def divideByGreatest : (times : Nat) → Nat → Nat
  | 0, units => units
  | times + 1, units =>
      if units = 0 then 0
      else
        divideByGreatest times
          (quotientUnits units (unitsOfPower greatestPower))

/-- A magnitude times a power of ten, or none if it is too great. -/
def scaleUnits? (units : Nat) : (exponent : Int) → Option Nat
  | .ofNat exponent =>
      if exponent ≤ greatestPower then
        let product := productUnits units (unitsOfPower exponent)
        if product < unitsLimit then some product else none
      else if units = 0 then some 0
      else none
  | .negSucc exponent =>
      let times := exponent / greatestPower
      some
        (quotientUnits (divideByGreatest times units)
          (unitsOfPower (exponent + 1 - times * greatestPower)))

end Preflight.Binary64
