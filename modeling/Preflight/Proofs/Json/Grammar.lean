import Preflight.Json.Reader

/-!
# The grammar of JSON

Which texts spell which values. A value has many spellings: white space may
stand around every value and key, strings may have escapes, and numbers keep
the zeros behind their point. A text is put together from the spellings of its
parts, so nothing here says how a text is to be read.
-/

namespace Preflight.Json

open Text

def IsWhite (space : List Char) : Prop :=
  ∀ c ∈ space, isSpace c = true

/-! ## Strings -/

/-- The characters that have an escape of one letter, with that letter. -/
def letterEscapes : List (Char × Char) :=
  [('"', '"'), ('\\', '\\'), ('\x08', 'b'), ('\x0c', 'f'), ('\n', 'n'),
    ('\r', 'r'), ('\t', 't')]

/-- A unit of a string is spelt by a character, by an escape of one letter, or
by an escape of four hexadecimal digits. -/
inductive UnitSpelling : List Char → StringUnit → Prop
  | plain {c : Char} :
      c ≠ '"' → c ≠ '\\' → 0x20 ≤ c.toNat → UnitSpelling [c] (.char c)
  | letter {c letter : Char} :
      (c, letter) ∈ ('/', '/') :: letterEscapes →
      UnitSpelling ['\\', letter] (.char c)
  | code {a b c d : Char} {code : Nat} :
      numberInBase? 16 [a, b, c, d] = some code →
      UnitSpelling ['\\', 'u', a, b, c, d] (.code code)

inductive UnitsSpelling : List Char → List StringUnit → Prop
  | nil : UnitsSpelling [] []
  | cons {piece text : List Char} {unit : StringUnit}
      {units : List StringUnit} :
      UnitSpelling piece unit → UnitsSpelling text units →
      UnitsSpelling (piece ++ text) (unit :: units)

/-- The text of units. The two halves of a surrogate pair denote one character
together, and a half alone denotes none. -/
inductive UnitsDenote : List StringUnit → List Char → Prop
  | nil : UnitsDenote [] []
  | char {units : List StringUnit} {text : List Char} (c : Char) :
      UnitsDenote units text → UnitsDenote (.char c :: units) (c :: text)
  | code {units : List StringUnit} {text : List Char} {code : Nat} :
      isHighSurrogate code = false → isLowSurrogate code = false →
      UnitsDenote units text →
      UnitsDenote (.code code :: units) (Char.ofNat code :: text)
  | pair {units : List StringUnit} {text : List Char} {high low : Nat} :
      isHighSurrogate high = true → isLowSurrogate low = true →
      UnitsDenote units text →
      UnitsDenote (.code high :: .code low :: units)
        (pairedChar high low :: text)

/-- A string stands in quotes. Its units have a text or none. -/
inductive StringSpelling : List Char → Option String → Prop
  | quoted {inside : List Char} {units : List StringUnit}
      {content : Option String} :
      UnitsSpelling inside units →
      (∀ text, content = some text ↔ UnitsDenote units text.toList) →
      StringSpelling ('"' :: (inside ++ ['"'])) content

/-! ## Numbers -/

def IsDigits (digits : List Char) : Prop :=
  digits ≠ [] ∧ ∀ c ∈ digits, c.isDigit = true

/-- The digits in front of the point: a zero alone, or no zero in front. -/
def IsWhole (digits : List Char) : Prop :=
  IsDigits digits ∧ (digits.head? = some '0' → digits = ['0'])

/-- The digits behind the point, as they are written. -/
def writeFraction (fraction : List Char) : List Char :=
  if fraction.isEmpty then [] else '.' :: fraction

def IsExponentMark (c : Char) : Prop :=
  c = 'e' ∨ c = 'E'

/-- An exponent may be left out and may have a sign. -/
inductive ExponentSpelling : List Char → Option Int → Prop
  | absent : ExponentSpelling [] none
  | bare {mark : Char} {digits : List Char} :
      IsExponentMark mark → IsDigits digits →
      ExponentSpelling (mark :: digits) (some (decimalValue digits))
  | plus {mark : Char} {digits : List Char} :
      IsExponentMark mark → IsDigits digits →
      ExponentSpelling (mark :: '+' :: digits) (some (decimalValue digits))
  | minus {mark : Char} {digits : List Char} :
      IsExponentMark mark → IsDigits digits →
      ExponentSpelling (mark :: '-' :: digits)
        (some (-(decimalValue digits : Int)))

inductive NumberSpelling : List Char → Number → Prop
  | parts {whole fraction exponentText : List Char} {exponent : Option Int}
      (negative : Bool) :
      IsWhole whole → (∀ c ∈ fraction, c.isDigit = true) →
      ExponentSpelling exponentText exponent →
      NumberSpelling
        ((if negative then ['-'] else []) ++
          (whole ++ (writeFraction fraction ++ exponentText)))
        { negative, whole := decimalValue whole, fraction, exponent }

/-! ## Values -/

/-- A value with its text and the white space around it. -/
structure Slot where
  before : List Char
  text : List Char
  value : Json
  behind : List Char

namespace Slot

def spelling (slot : Slot) : List Char :=
  slot.before ++ (slot.text ++ slot.behind)

def IsPadded (slot : Slot) : Prop :=
  IsWhite slot.before ∧ IsWhite slot.behind

end Slot

/-- A key with its text and the white space around it, in front of a value. -/
structure MemberSlot where
  before : List Char
  text : List Char
  key : Option String
  behind : List Char
  slot : Slot

namespace MemberSlot

def spelling (member : MemberSlot) : List Char :=
  member.before ++
    (member.text ++ (member.behind ++ ':' :: member.slot.spelling))

def IsPadded (member : MemberSlot) : Prop :=
  IsWhite member.before ∧ IsWhite member.behind ∧ member.slot.IsPadded

def entry (member : MemberSlot) : Option String × Json :=
  (member.key, member.slot.value)

end MemberSlot

/-- The texts that spell a value, from its first to its last character. -/
inductive Spelling : List Char → Json → Prop
  | null : Spelling "null".toList .null
  | true : Spelling "true".toList (.bool Bool.true)
  | false : Spelling "false".toList (.bool Bool.false)
  | number {text : List Char} {numeral : Number} :
      NumberSpelling text numeral → Spelling text (.number numeral)
  | string {text : List Char} {content : Option String} :
      StringSpelling text content → Spelling text (.string content)
  | emptyArray {space : List Char} :
      IsWhite space → Spelling ('[' :: (space ++ [']'])) (.array [])
  | array {slots : List Slot} :
      slots ≠ [] → (∀ slot ∈ slots, slot.IsPadded) →
      (∀ slot ∈ slots, Spelling slot.text slot.value) →
      Spelling
        ('[' :: ([','].intercalate (slots.map Slot.spelling) ++ [']']))
        (.array (slots.map Slot.value))
  | emptyObject {space : List Char} :
      IsWhite space →
      Spelling ('\x7b' :: (space ++ ['\x7d'])) (.object [])
  | object {members : List MemberSlot} :
      members ≠ [] → (∀ member ∈ members, member.IsPadded) →
      (∀ member ∈ members, StringSpelling member.text member.key) →
      (∀ member ∈ members, Spelling member.slot.text member.slot.value) →
      Spelling
        ('\x7b' ::
          ([','].intercalate (members.map MemberSlot.spelling) ++ ['\x7d']))
        (.object (members.map MemberSlot.entry))

/-- A whole text: a value with white space around it. -/
inductive Document : List Char → Json → Prop
  | padded {slot : Slot} :
      slot.IsPadded → Spelling slot.text slot.value →
      Document slot.spelling slot.value

end Preflight.Json
