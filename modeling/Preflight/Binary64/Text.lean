import Preflight.Binary64.Shortest

/-!
# Text of a floating point number

Numbers are written with their shortest decimal digits. A layout decides which
of them are written positionally and whether a whole number keeps a fraction.
-/

namespace Preflight.Binary64

/-- How digits are laid out. The bounds are decimal exponents of the leading
digit; outside them an exponent is written. -/
structure Layout where
  /-- The least leading exponent written positionally, if there is one. -/
  positionalFrom : Option Int
  /-- The greatest leading exponent written positionally, if there is one. -/
  positionalTo : Option Int
  /-- What follows the digits of a whole number in positional notation. -/
  wholeEnding : String

namespace Layout

/-- Messages write every number positionally and whole numbers without a
fraction. -/
def message : Layout := ⟨none, none, ""⟩

/-- The log writes numbers positionally from `0.0001` up to below `10 ^ 16`,
and whole numbers among them with a zero behind the point. -/
def log : Layout := ⟨some (-4), some 15, ".0"⟩

/-- Whether a number with this leading exponent is written positionally. -/
def isPositional (layout : Layout) (leading : Int) : Bool :=
  layout.positionalFrom.all (· ≤ leading) &&
    layout.positionalTo.all (leading ≤ ·)

end Layout

def zeros (count : Nat) : String :=
  String.ofList (List.replicate count '0')

/-- Digits in positional notation. `leading` is the decimal exponent of the
first digit. -/
def positional (wholeEnding : String) (digits : List Char) (leading : Int) :
    String :=
  if leading < 0 then
    "0." ++ zeros ((-leading).toNat - 1) ++ String.ofList digits
  else
    let whole := leading.toNat + 1
    if digits.length ≤ whole then
      String.ofList digits ++ zeros (whole - digits.length) ++ wholeEnding
    else
      String.ofList (digits.take whole) ++ "." ++
        String.ofList (digits.drop whole)

/-- Digits with an exponent: one digit before the point and no point behind a
single digit. -/
def exponential (digits : List Char) (leading : Int) : String :=
  let tail :=
    match digits.drop 1 with
    | [] => ""
    | rest => "." ++ String.ofList rest
  String.ofList (digits.take 1) ++ tail ++ "e" ++ toString leading

/-- The text of a finite magnitude in units. -/
def magnitudeText (layout : Layout) (units : Nat) : String :=
  if units = 0 then "0" ++ layout.wholeEnding
  else
    let decimal := shortest units
    let digits := Nat.toDigits 10 decimal.coefficient
    let leading := decimal.exponent + (digits.length : Int) - 1
    if layout.isPositional leading then
      positional layout.wholeEnding digits leading
    else exponential digits leading

/-- The text of a number. Zero keeps its sign, and what is not a number has
none. -/
def text (layout : Layout) (x : Binary64) : String :=
  if x.isNaN then "NaN"
  else
    let sign := if x.isNegative then "-" else ""
    let magnitude :=
      if x.isInfinite then "inf" else magnitudeText layout x.units
    sign ++ magnitude

end Preflight.Binary64
