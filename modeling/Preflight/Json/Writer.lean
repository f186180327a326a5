import Preflight.Json.Value

/-!
# Writing JSON

Values are written in one of two layouts: without any white space, or with
every element and member on a line of its own, indented by two spaces for each
level. Quotes, backslashes and control characters are escaped and nothing
else.
-/

namespace Preflight.Json

/-- Where white space is written. -/
structure Layout where
  /-- Whether elements and members stand on lines of their own. -/
  multiline : Bool
  deriving DecidableEq, Repr

namespace Layout

/-- No white space. -/
def compact : Layout := ⟨false⟩

/-- A line for every element and member. -/
def pretty : Layout := ⟨true⟩

/-- What stands before an element or member of a level, and before the bracket
that closes the level above it. -/
def lineStart (layout : Layout) (level : Nat) : List Char :=
  if layout.multiline then '\n' :: List.replicate (2 * level) ' ' else []

def colon (layout : Layout) : List Char :=
  if layout.multiline then [':', ' '] else [':']

end Layout

/-- A hexadecimal digit in lower case. -/
def hexDigit (n : Nat) : Char :=
  Nat.digitChar (n % 16)

/-- A character inside a string. -/
def escape (c : Char) : List Char :=
  if c = '"' then ['\\', '"']
  else if c = '\\' then ['\\', '\\']
  else if c = '\x08' then ['\\', 'b']
  else if c = '\x0c' then ['\\', 'f']
  else if c = '\n' then ['\\', 'n']
  else if c = '\r' then ['\\', 'r']
  else if c = '\t' then ['\\', 't']
  else if c.toNat < 0x20 then
    ['\\', 'u', '0', '0', hexDigit (c.toNat / 16), hexDigit c.toNat]
  else [c]

/-- A string in quotes. One without a text is written as half of a surrogate
pair. -/
def writeString : Option String → List Char
  | some text => '"' :: text.toList.flatMap escape ++ ['"']
  | none => "\"\\ud800\"".toList

def writeNumber (numeral : Number) : List Char :=
  (if numeral.negative then ['-'] else []) ++
    Nat.toDigits 10 numeral.whole ++
    (if numeral.fraction.isEmpty then [] else '.' :: numeral.fraction) ++
    match numeral.exponent with
    | some exponent => 'e' :: (toString exponent).toList
    | none => []

mutual

/-- A value at a level of nesting. -/
def write (layout : Layout) (level : Nat) : Json → List Char
  | .null => "null".toList
  | .bool true => "true".toList
  | .bool false => "false".toList
  | .number numeral => writeNumber numeral
  | .string text => writeString text
  | .array [] => ['[', ']']
  | .array (element :: elements) =>
      '[' :: layout.lineStart (level + 1) ++
        write layout (level + 1) element ++
        writeElements layout (level + 1) elements ++
        layout.lineStart level ++ [']']
  | .object [] => ['\x7b', '\x7d']
  | .object ((key, value) :: members) =>
      '\x7b' :: layout.lineStart (level + 1) ++
        writeString key ++ layout.colon ++ write layout (level + 1) value ++
        writeMembers layout (level + 1) members ++
        layout.lineStart level ++ ['\x7d']

def writeElements (layout : Layout) (level : Nat) : List Json → List Char
  | [] => []
  | element :: elements =>
      ',' :: layout.lineStart level ++ write layout level element ++
        writeElements layout level elements

def writeMembers (layout : Layout) (level : Nat) :
    List (Option String × Json) → List Char
  | [] => []
  | (key, value) :: members =>
      ',' :: layout.lineStart level ++
        writeString key ++ layout.colon ++ write layout level value ++
        writeMembers layout level members

end

def render (layout : Layout) (value : Json) : String :=
  String.ofList (write layout 0 value)

end Preflight.Json
