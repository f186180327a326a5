import Preflight.Binary64.Scaling
import Preflight.Count
import Preflight.Json.Value

/-!
# Numbers of JSON in floating point

A number is read quickly rather than exactly. As many of its digits as fit are
taken into a word, the word is rounded to a floating point number, and this is
scaled by a power of ten. So what is read lies near the number, but other
floating point numbers may be nearer.
-/

namespace Preflight.Json

/-- Take digits behind those of a word as long as they fit. -/
def takeDigits : (word : Nat) → List Char → Nat × List Char
  | word, [] => (word, [])
  | word, digit :: digits =>
      let longer := Nat.ofDigitChars 10 [digit] word
      if longer ≤ maxCount then takeDigits longer digits
      else (word, digit :: digits)

/-- The digits that fit into a word, with the exponent of the last of them.
Digits in front of the point that do not fit are left out, but count as
places. Digits behind the point are then tried again. -/
def Number.leading (numeral : Number) : Nat × Int :=
  let (word, skipped) := takeDigits 0 (Nat.toDigits 10 numeral.whole)
  let (word, omitted) := takeDigits word numeral.fraction
  (word,
    numeral.exponent.getD 0 + skipped.length + omitted.length -
      numeral.fraction.length)

/-- A floating point number near a number, unless it is too great. -/
def Number.toBinary64? (numeral : Number) : Option Binary64 :=
  let (word, exponent) := numeral.leading
  (Binary64.scaleUnits? (Binary64.unitsOfNat word) exponent).map
    (Binary64.ofUnits numeral.negative)

end Preflight.Json
