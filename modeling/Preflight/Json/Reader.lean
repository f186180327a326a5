import Preflight.Json.Value
import Preflight.Text.Digit
import Preflight.Text.Word

/-!
# Reading JSON

The grammar is strict: four white space characters, no comments, no trailing
commas, no leading zeros, and no control characters inside strings. A reader
takes a value off the front of a text and gives what is left of it.
-/

namespace Preflight.Json

open Text (decimalValue dropStart? numberInBase?)

def skipSpace (text : List Char) : List Char :=
  text.dropWhile isSpace

/-! ## Strings -/

/-- One unit of a string: a character, or the code of a `\u` escape. -/
inductive StringUnit where
  | char (c : Char)
  | code (n : Nat)
  deriving DecidableEq, Repr

/-- The character that a one-letter escape denotes. -/
def escaped? (letter : Char) : Option Char :=
  if letter = '"' then some '"'
  else if letter = '\\' then some '\\'
  else if letter = '/' then some '/'
  else if letter = 'b' then some '\x08'
  else if letter = 'f' then some '\x0c'
  else if letter = 'n' then some '\n'
  else if letter = 'r' then some '\r'
  else if letter = 't' then some '\t'
  else none

/-- The units of a string up to its closing quote. -/
def readUnits : List Char → Option (List StringUnit × List Char)
  | [] => none
  | '"' :: rest => some ([], rest)
  | '\\' :: 'u' :: a :: b :: c :: d :: rest => do
      let code ← numberInBase? 16 [a, b, c, d]
      let (units, rest) ← readUnits rest
      return (.code code :: units, rest)
  | '\\' :: letter :: rest => do
      let c ← escaped? letter
      let (units, rest) ← readUnits rest
      return (.char c :: units, rest)
  | c :: rest =>
      if c.toNat < 0x20 then none
      else do
        let (units, rest) ← readUnits rest
        return (.char c :: units, rest)

/-- The codes that start a surrogate pair. -/
def isHighSurrogate (code : Nat) : Bool :=
  0xd800 ≤ code && code ≤ 0xdbff

/-- The codes that end a surrogate pair. -/
def isLowSurrogate (code : Nat) : Bool :=
  0xdc00 ≤ code && code ≤ 0xdfff

/-- The character that a surrogate pair denotes. -/
def pairedChar (high low : Nat) : Char :=
  Char.ofNat (0x10000 + (high - 0xd800) * 0x400 + (low - 0xdc00))

/-- The characters of a string. `pending` is the first half of a surrogate
pair that waits for its second half. A half without its partner has no
text. -/
def joinUnits : (pending : Option Nat) → List StringUnit →
    Option (List Char)
  | none, [] => some []
  | none, .char c :: units => (joinUnits none units).map (c :: ·)
  | none, .code code :: units =>
      if isHighSurrogate code then joinUnits (some code) units
      else if isLowSurrogate code then none
      else (joinUnits none units).map (Char.ofNat code :: ·)
  | some high, .code code :: units =>
      if isLowSurrogate code then
        (joinUnits none units).map (pairedChar high code :: ·)
      else none
  | some _, _ => none

/-- The text of a string behind its opening quote, and what follows the
string. -/
def readString (text : List Char) : Option (Option String × List Char) :=
  (readUnits text).map fun (units, rest) =>
    ((joinUnits none units).map String.ofList, rest)

/-! ## Numbers -/

/-- Split off the digits in front of a text; there must be at least one. -/
def readDigits (text : List Char) : Option (List Char × List Char) :=
  let (digits, rest) := text.span Char.isDigit
  if digits.isEmpty then none else some (digits, rest)

/-- Split off a minus sign, if there is one. -/
def readMinus : List Char → Bool × List Char
  | '-' :: rest => (true, rest)
  | text => (false, text)

/-- The digits before the point: a zero alone, or digits that do not start
with one. -/
def readWhole (text : List Char) : Option (Nat × List Char) := do
  let (digits, rest) ← readDigits text
  if digits.head? = some '0' ∧ digits.length ≠ 1 then none
  else return (decimalValue digits, rest)

/-- The digits behind the point, or none without a point. -/
def readFraction : List Char → Option (List Char × List Char)
  | '.' :: rest => readDigits rest
  | text => some ([], text)

/-- The digits of an exponent, with a sign or without. -/
def readExponentDigits : List Char → Option (Int × List Char)
  | '-' :: rest =>
      (readDigits rest).map fun (digits, rest) =>
        (-(decimalValue digits : Int), rest)
  | '+' :: rest =>
      (readDigits rest).map fun (digits, rest) =>
        ((decimalValue digits : Int), rest)
  | text =>
      (readDigits text).map fun (digits, rest) =>
        ((decimalValue digits : Int), rest)

def readExponent : List Char → Option (Option Int × List Char)
  | 'e' :: rest | 'E' :: rest =>
      (readExponentDigits rest).map fun (exponent, rest) =>
        (some exponent, rest)
  | text => some (none, text)

/-- A number in the parts of its spelling. -/
def readNumber (text : List Char) : Option (Number × List Char) := do
  let (negative, text) := readMinus text
  let (whole, text) ← readWhole text
  let (fraction, text) ← readFraction text
  let (exponent, text) ← readExponent text
  return ({ negative, whole, fraction, exponent }, text)

/-! ## Values -/

def readScalar (text : List Char) : Option (Json × List Char) :=
  match dropStart? "null".toList text with
  | some rest => some (.null, rest)
  | none =>
    match dropStart? "true".toList text with
    | some rest => some (.bool true, rest)
    | none =>
      match dropStart? "false".toList text with
      | some rest => some (.bool false, rest)
      | none =>
          (readNumber text).map fun (numeral, rest) => (.number numeral, rest)

mutual

/-- The value that starts a text, after white space. -/
def readValue : (fuel : Nat) → List Char → Option (Json × List Char)
  | 0, _ => none
  | fuel + 1, text =>
      match skipSpace text with
      | '[' :: rest =>
          match skipSpace rest with
          | ']' :: rest => some (.array [], rest)
          | rest =>
              (readElements fuel rest).map fun (elements, rest) =>
                (.array elements, rest)
      | '\x7b' :: rest =>
          match skipSpace rest with
          | '\x7d' :: rest => some (.object [], rest)
          | rest =>
              (readMembers fuel rest).map fun (members, rest) =>
                (.object members, rest)
      | '"' :: rest =>
          (readString rest).map fun (text, rest) => (.string text, rest)
      | text => readScalar text

/-- Elements up to the bracket that closes their array, at least one. -/
def readElements : (fuel : Nat) → List Char →
    Option (List Json × List Char)
  | 0, _ => none
  | fuel + 1, text =>
      match readValue fuel text with
      | none => none
      | some (element, rest) =>
          match skipSpace rest with
          | ']' :: rest => some ([element], rest)
          | ',' :: rest =>
              (readElements fuel rest).map fun (elements, rest) =>
                (element :: elements, rest)
          | _ => none

/-- Members up to the brace that closes their object, at least one. -/
def readMembers : (fuel : Nat) → List Char →
    Option (List (Option String × Json) × List Char)
  | 0, _ => none
  | fuel + 1, text =>
      match skipSpace text with
      | '"' :: rest =>
          match readString rest with
          | none => none
          | some (key, rest) =>
              match skipSpace rest with
              | ':' :: rest =>
                  match readValue fuel rest with
                  | none => none
                  | some (value, rest) =>
                      match skipSpace rest with
                      | '\x7d' :: rest => some ([(key, value)], rest)
                      | ',' :: rest =>
                          (readMembers fuel rest).map
                            fun (members, rest) =>
                              ((key, value) :: members, rest)
                      | _ => none
              | _ => none
      | _ => none

end

/-- The value that a text spells, if it is JSON. Each step of a reader takes
at least one character per two units of fuel. -/
def parse? (text : List Char) : Option Json :=
  match readValue (2 * text.length + 2) text with
  | some (value, rest) => if (skipSpace rest).isEmpty then some value else none
  | none => none

end Preflight.Json
