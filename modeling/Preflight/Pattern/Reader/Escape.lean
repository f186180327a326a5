import Preflight.Pattern.Property
import Preflight.Pattern.Reader.State
import Preflight.Text.Digit

/-!
# Single characters and escapes

The smallest parts of a pattern are single characters and escapes. An escape
stands for a character, a class of characters or an assertion.
-/

namespace Preflight.Pattern

/-- The smallest parts of a pattern. -/
inductive Atom where
  | literal (c : Char)
  /-- A character whose code is given by two digits: where bytes are told apart
  it is the byte with that code. -/
  | byte (c : Char)
  | dot
  /-- A class that is named by a letter or by a property. -/
  | named (among : CharClass)
  | assertion (assertion : Assertion)
  deriving DecidableEq, Repr

/-- A part of a pattern and where it stands. -/
structure Placed where
  atom : Atom
  span : Span
  deriving DecidableEq, Repr

/-- The characters that mean something in a pattern. -/
def metaCharacters : List Char := "\\.+*?()|[]\x7b\x7d^$#&-~".toList

/-- Whether a backslash in front of a character makes it stand for itself. -/
def isEscapable (c : Char) : Bool :=
  metaCharacters.contains c ||
    (c.toNat < 128 && !c.isAlphanum && c ≠ '<' && c ≠ '>')

/-- The characters that letters behind a backslash stand for. -/
def controlEscape? : Char → Option Char
  | 'a' => some '\x07'
  | 'f' => some '\x0c'
  | 't' => some '\t'
  | 'n' => some '\n'
  | 'r' => some '\r'
  | 'v' => some '\x0b'
  | _ => none

/-- The ASCII characters of the class that a letter names. -/
def asciiClass? : Char → Option CharClass
  | 'd' => some (.range '0' '9')
  | 's' => some (.ofRanges [('\t', '\r'), (' ', ' ')])
  | 'w' => some (.ofRanges [('0', '9'), ('A', 'Z'), ('_', '_'), ('a', 'z')])
  | _ => none

/-- The class that a letter names. -/
def letterClass? : Char → Option CharClass
  | 'd' => some (.having (.category [.decimalNumber]))
  | 's' => some (.having .space)
  | 'w' => some (.having .wordPart)
  | _ => none

/-- The parts of words. -/
def Flags.wordParts (flags : Flags) : CharClass :=
  let named := if flags.unicode then letterClass? 'w' else asciiClass? 'w'
  named.getD .nothing

namespace Read

/-! ## Codes -/

def isCodeDigit (c : Char) : Bool := (Text.hexValue? c).isSome

/-- The character with a code in hexadecimal digits. -/
def characterOfCode? (digits : List Char) : Option Char := do
  let code ← Text.numberInBase? 16 digits
  if code.isValidChar then return Char.ofNat code
  else none

/-- The code in braces of a character. -/
def bracedCode : Read Char := do
  let opening ← position
  advance
  let digits ← spanWhile isCodeDigit
  match ← next? with
  | none => failFrom opening .unfinishedEscape
  | some '\x7d' =>
      let finish ← position
      advance
      if digits.isEmpty then failFrom opening .emptyCode
      else
        match characterOfCode? digits with
        | some c => return c
        | none => failBetween (opening + 1) finish .invalidCode
  | some _ => failAtNext .invalidCodeDigit

/-- So many digits of a code. -/
def codeDigits : (count : Nat) → Read (List Char)
  | 0 => return []
  | count + 1 => do
      match ← next? with
      | none => failHere .unfinishedEscape
      | some c =>
          if isCodeDigit c then
            advance
            return c :: (← codeDigits count)
          else failAtNext .invalidCodeDigit

/-- The character with a code of so many digits, or of any number of digits in
braces. -/
def code (size : Nat) : Read Atom := do
  advance
  match ← next? with
  | none => failHere .unfinishedEscape
  | some '\x7b' => return .literal (← bracedCode)
  | some _ =>
      let start ← position
      match characterOfCode? (← codeDigits size) with
      | some c => return if size = 2 then .byte c else .literal c
      | none => failFrom start .invalidCode

/-! ## Properties -/

/-- A text cut at the first place where another stands in it. -/
def cutAt? (mark : List Char) : List Char → Option (List Char × List Char)
  | [] => none
  | c :: rest =>
      match Text.dropStart? mark (c :: rest) with
      | some behind => some ([], behind)
      | none => (cutAt? mark rest).map fun (before, behind) =>
          (c :: before, behind)

/-- The class that the text in the braces of a property describes, and whether
it is excluded. The text is a property, or the value of one that is required or
excluded. -/
def propertyClass (text : List Char) : Except Cause (CharClass × Bool) :=
  let valued (name value : List Char) (excluded : Bool) :
      Except Cause (CharClass × Bool) :=
    if Property.isCategoryName (Property.simplifyName name) then
      match Property.categoryNamed? (Property.simplifyName value) with
      | some among => .ok (among, excluded)
      | none => .error .unknownPropertyValue
    else .error .unknownProperty
  match cutAt? ['!', '='] text with
  | some (name, value) => valued name value true
  | none =>
      match cutAt? [':'] text <|> cutAt? ['='] text with
      | some (name, value) => valued name value false
      | none =>
          match Property.named? (Property.simplifyName text) with
          | some among => .ok (among, false)
          | none => .error .unknownProperty

/-- The name of a property: one letter, or a text in braces. -/
def propertyName : Read (List Char) := do
  advance
  match ← next? with
  | none => failHere .unfinishedEscape
  | some '\x7b' =>
      advance
      let text ← spanWhile (· ≠ '\x7d')
      match ← next? with
      | none => failHere .unfinishedEscape
      | some _ =>
          skip
          return text
  | some '\\' => failAtNext .invalidProperty
  | some c =>
      advance
      return [c]

/-- The class of a property, or its complement, behind the backslash at a
place. -/
def property (start : Nat) (negated : Bool) : Read Atom := do
  let name ← propertyName
  let span : Span := ⟨start, ← position⟩
  let flags ← flags
  if flags.unicode then
    match propertyClass name with
    | .ok (among, excluded) =>
        return .named
          (.negatedIf (negated != excluded) (flags.foldCase among))
    | .error cause =>
        object span cause
        return .named .nothing
  else
    object span .propertyOfBytes
    return .named .nothing

/-! ## Assertions -/

/-- Whether a character may stand in the name of an edge of a word. -/
def isEdgeCharacter (c : Char) : Bool := c.isAlpha || c = '-'

/-- The edge of a word that is named in braces behind `\b`. What does not look
like such a name is left as it is. -/
def wordEdge? (start : Nat) : Read (Option WordEdge) := do
  let before ← get
  let opening ← position
  advance
  match ← next? with
  | none => failFrom start .unfinishedWordEdge
  | some c =>
      if isEdgeCharacter c then
        let nameStart ← position
        let name ← spanWhile isEdgeCharacter
        if (← next?) = some '\x7d' then
          let nameEnd ← position
          skip
          match String.ofList name with
          | "start" => return some .start
          | "end" => return some .finish
          | "start-half" => return some .startHalf
          | "end-half" => return some .finishHalf
          | _ => failBetween nameStart nameEnd .unknownWordEdge
        else failFrom opening .unclosedWordEdge
      else
        set before
        return none

def wordAssertion (edge : WordEdge) : Read Atom := do
  return .assertion (.word edge (← flags).wordParts)

/-! ## Escapes -/

/-- The class that a letter names, or its complement where the letter is a
capital. Where bytes are told apart, a complement would hold bytes that are no
characters. -/
def letterClass (start : Nat) (letter : Char) : Read Atom := do
  let flags ← flags
  let negated := letter.isUpper
  if flags.unicode then
    return .named
      (.negatedIf negated ((letterClass? letter.toLower).getD .nothing))
  else
    if negated then object ⟨start, ← position⟩ .brokenText
    return .named
      (.negatedIf negated ((asciiClass? letter.toLower).getD .nothing))

/-- An escape of one character, which has been passed. -/
def shortEscape (start : Nat) (c : Char) : Read Atom := do
  if isEscapable c then return .literal c
  else
    match controlEscape? c with
    | some control => return .literal control
    | none =>
        match c with
        | 'd' | 's' | 'w' | 'D' | 'S' | 'W' => letterClass start c
        | 'A' => return .assertion .textStart
        | 'z' => return .assertion .textFinish
        | 'B' => wordAssertion .inside
        | '<' => wordAssertion .start
        | '>' => wordAssertion .finish
        | 'b' =>
            if (← next?) = some '\x7b' then
              wordAssertion ((← wordEdge? start).getD .boundary)
            else wordAssertion .boundary
        | _ => failFrom start .unknownEscape

def escape : Read Placed := do
  let start ← position
  skip
  match ← next? with
  | none => failFrom start .unfinishedEscape
  | some c =>
      let atom ←
        match c with
        | 'x' => code 2
        | 'u' => code 4
        | 'U' => code 8
        | 'p' => property start false
        | 'P' => property start true
        | _ => do
            if c.isDigit then
              failBetween start ((← position) + 1) .backreference
            else
              skip
              shortEscape start c
      return ⟨atom, ⟨start, ← position⟩⟩

end Read

end Preflight.Pattern
