/-!
# JSON values

Values keep what the rules for data look at: members stand in the order of the
text and may repeat a key, numbers keep their parts, and a string whose escapes
leave half of a surrogate pair unpaired is still a string, though it has no
text.
-/

namespace Preflight

namespace Json

/-- A number, in the parts of its spelling. -/
structure Number where
  negative : Bool := false
  /-- The digits before the point, as a number. -/
  whole : Nat
  /-- The digits behind the point; a number without a point has none. -/
  fraction : List Char := []
  /-- The exponent, if one is written. -/
  exponent : Option Int := none
  deriving DecidableEq, Repr

end Json

/-- A JSON value. Strings and keys without a text are `none`. -/
inductive Json where
  | null
  | bool (value : Bool)
  | number (value : Json.Number)
  | string (text : Option String)
  | array (elements : List Json)
  | object (members : List (Option String × Json))
  deriving Repr

namespace Json

def text (text : String) : Json := .string (some text)

def count (n : Nat) : Json := .number { whole := n }

/-- An object whose keys all have a text. -/
def record (members : List (String × Json)) : Json :=
  .object (members.map fun member => (some member.1, member.2))

/-- The characters that may stand between the parts of a JSON text. -/
def isSpace (c : Char) : Bool :=
  c = ' ' || c = '\t' || c = '\n' || c = '\r'

end Json

end Preflight
