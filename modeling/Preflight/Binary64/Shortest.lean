import Preflight.Binary64.Rounding

/-!
# Shortest decimals

The shortest decimal of a number has the fewest digits among those that round
back to it, and is the nearest of these. Decimals are sought on grids of
powers of ten, the coarsest first. A grid has a point that rounds back to the
number only if one of the two points next to the number does.
-/

namespace Preflight.Binary64

/-- A decimal `coefficient * 10 ^ exponent`. -/
structure Decimal where
  coefficient : Nat
  exponent : Int
  deriving DecidableEq, Repr

namespace Decimal

/-- Move zeros at the end of the coefficient into the exponent, at most
`fuel` of them. -/
def dropZeros : (fuel : Nat) → Decimal → Decimal
  | 0, decimal => decimal
  | fuel + 1, decimal =>
      if decimal.coefficient % 10 = 0 then
        dropZeros fuel ⟨decimal.coefficient / 10, decimal.exponent + 1⟩
      else decimal

end Decimal

/-- The decimals that round to a number, as a range of quarter units. The ends
belong to it when the last bit of the number is even. -/
structure RoundingRange where
  low : Nat
  value : Nat
  high : Nat
  closed : Bool
  deriving Repr

/-- The rounding range of a magnitude reaches half way to its neighbours; the
lower neighbour of a power of two is closer than the upper one. -/
def roundingRange (units : Nat) : RoundingRange :=
  let exponent := gapExponent units
  let gap := Nat.pow 2 exponent
  let below :=
    if exponent ≠ 0 ∧ units = Nat.pow 2 52 * gap then gap else 2 * gap
  { low := 4 * units - below
    value := 4 * units
    high := 4 * units + 2 * gap
    closed := units / gap % 2 = 0 }

/-- Whether a point lies in a range. The range is stretched by `scale`. -/
def RoundingRange.holds (range : RoundingRange) (scale point : Nat) : Bool :=
  if range.closed then
    range.low * scale ≤ point && point ≤ range.high * scale
  else
    range.low * scale < point && point < range.high * scale

/-- Grids are counted in steps of `10 ^ -324`, finer than the gap between any
two numbers. -/
def finestGrid : Nat := 324

/-- The multiple of `10 ^ place` steps that rounds back to a number and lies
nearest to it, as a factor; of two equally near ones the greater. -/
def onGrid? (range : RoundingRange) (place : Nat) : Option Nat :=
  let scale := Nat.pow 10 finestGrid
  let step := Nat.pow 10 place * (4 * unitsPerOne)
  let value := range.value * scale
  let lower := value / step
  let upper := lower + 1
  let lowerHolds := range.holds scale (lower * step)
  let upperHolds := range.holds scale (upper * step)
  if lowerHolds && upperHolds then
    if value - lower * step < upper * step - value then some lower
    else some upper
  else if lowerHolds then some lower
  else if upperHolds then some upper
  else none

/-- The shortest decimal on the grids up to `10 ^ places` steps, the coarsest
grid first. -/
def shortestBelow (range : RoundingRange) : (places : Nat) → Decimal
  | 0 =>
      let lower :=
        range.value * Nat.pow 10 finestGrid / (4 * unitsPerOne)
      ⟨(onGrid? range 0).getD lower, -finestGrid⟩
  | places + 1 =>
      match onGrid? range (places + 1) with
      | some factor => ⟨factor, (places + 1 : Nat) - (finestGrid : Int)⟩
      | none => shortestBelow range places

/-- The shortest decimal of a positive magnitude in units. -/
def shortest (units : Nat) : Decimal :=
  let steps := units * Nat.pow 10 finestGrid / unitsPerOne
  let decimal :=
    shortestBelow (roundingRange units) (decimalLength steps - 1)
  decimal.dropZeros (decimalLength decimal.coefficient)

end Preflight.Binary64
