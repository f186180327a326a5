import Preflight.Json.Magnitude

/-!
# Shapes of JSON values

How plain data is read off JSON values. A record is an object, whose members
may come in any order among members with other keys, or an array with the
fields in their order. A field given twice is refused, and so is an array with
too many elements.
-/

namespace Preflight.Json

/-! ## Plain data -/

/-- Whether a number is spelt as a natural number. -/
def Number.isNatural (numeral : Number) : Bool :=
  !numeral.negative && numeral.fraction.isEmpty && numeral.exponent.isNone

/-- A count: a number spelt as a natural number, up to the greatest one. -/
def count? : Json → Option Nat
  | .number numeral =>
      if numeral.isNatural && numeral.whole ≤ maxCount then
        some numeral.whole
      else none
  | _ => none

def binary64? : Json → Option Binary64
  | .number numeral => numeral.toBinary64?
  | _ => none

def text? : Json → Option String
  | .string text => text
  | _ => none

def list? {α : Type} (item? : Json → Option α) : Json → Option (List α)
  | .array elements => elements.mapM item?
  | _ => none

/-- One of several names, given as a string or as the key of an object whose
only member stands for no data. -/
def name? (isNothing : Json → Bool) : Json → Option String
  | .string text => text
  | .object [(key, value)] => if isNothing value then key else none
  | _ => none

/-- Null stands for no data. -/
def isNull : Json → Bool
  | .null => true
  | _ => false

/-- Null or an empty object: what stands for no data inside a value that is
held back until its kind is known. -/
def isNullOrEmpty : Json → Bool
  | .null => true
  | .object [] => true
  | _ => false

/-! ## Records -/

/-- The value of the only member with a key, nothing if there is no such
member, and a failure if there are several. -/
def member? (key : String) (members : List (Option String × Json)) :
    Option (Option Json) :=
  match members.filter fun member => member.1 = some key with
  | [] => some none
  | [member] => some (some member.2)
  | _ => none

/-- The fields of a record, in the order of their keys. Every key of an object
must have a text, whether it names a field or not. -/
def fields? (keys : List String) : Json → Option (List (Option Json))
  | .object members =>
      if members.all fun member => member.1.isSome then
        keys.mapM fun key => member? key members
      else none
  | .array elements =>
      if elements.length ≤ keys.length then
        some (elements.map some ++
          List.replicate (keys.length - elements.length) none)
      else none
  | _ => none

/-- A field that must be given. -/
def required? {α : Type} (item? : Json → Option α) (field : Option Json) :
    Option α :=
  field.bind item?

/-- A field with a default. -/
def withDefault? {α : Type} (default : α) (item? : Json → Option α) :
    Option Json → Option α
  | none => some default
  | some value => item? value

/-- A field that may be absent; null counts as absent. -/
def optional? {α : Type} (item? : Json → Option α) :
    Option Json → Option (Option α)
  | none | some .null => some none
  | some value => (item? value).map some

/-! ## Values held back -/

/-- How deeply the members of a record may nest when they are held back. -/
def holdableDepth : Nat := 126

mutual

/-- Whether a value can be held back: every string has a text, every number
lies in the range of floating point numbers, and nesting stays within the
depth given. -/
def isHoldable : (depth : Nat) → Json → Bool
  | _, .null => true
  | _, .bool _ => true
  | _, .number numeral => numeral.toBinary64?.isSome
  | _, .string text => text.isSome
  | depth, .array elements => 0 < depth && areHoldable (depth - 1) elements
  | depth, .object members =>
      0 < depth && areMembersHoldable (depth - 1) members

/-- Whether all elements can be held back. -/
def areHoldable : (depth : Nat) → List Json → Bool
  | _, [] => true
  | depth, element :: elements =>
      isHoldable depth element && areHoldable depth elements

/-- Whether all members can be held back. -/
def areMembersHoldable : (depth : Nat) → List (Option String × Json) → Bool
  | _, [] => true
  | depth, (key, value) :: members =>
      key.isSome && isHoldable depth value &&
        areMembersHoldable depth members

end

end Preflight.Json
