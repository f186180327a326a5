/-!
# Digits

Numbers are spelt in digits of a base up to sixteen. The digits above nine are
letters of either case.
-/

namespace Preflight.Text

/-- The value of a hexadecimal digit in either case. -/
def hexValue? (c : Char) : Option Nat :=
  if '0' ≤ c ∧ c ≤ '9' then some (c.toNat - '0'.toNat)
  else if 'a' ≤ c ∧ c ≤ 'f' then some (c.toNat - 'a'.toNat + 10)
  else if 'A' ≤ c ∧ c ≤ 'F' then some (c.toNat - 'A'.toNat + 10)
  else none

/-- The value of a digit of a base. -/
def digitValue? (base : Nat) (c : Char) : Option Nat :=
  (hexValue? c).filter (· < base)

/-- The number that digits of a base denote. No digits denote zero. -/
def numberInBase? (base : Nat) (digits : List Char) : Option Nat :=
  digits.foldlM
    (fun number digit =>
      (digitValue? base digit).map fun value => base * number + value)
    0

/-- The number that decimal digits denote. -/
def decimalValue (digits : List Char) : Nat :=
  Nat.ofDigitChars 10 digits 0

end Preflight.Text
