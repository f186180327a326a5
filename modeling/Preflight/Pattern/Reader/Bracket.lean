import Preflight.Pattern.Reader.Escape

/-!
# Bracketed classes

A class in brackets is a union of characters, ranges, named classes and classes
in brackets. Unions may be combined by operators, the first of which are
applied first.
-/

namespace Preflight.Pattern

/-- The operators between unions in brackets. -/
inductive ClassOperator where
  | intersection
  | difference
  | symmetricDifference
  deriving DecidableEq, Repr

namespace ClassOperator

def apply : ClassOperator → CharClass → CharClass → CharClass
  | intersection => .intersection
  | difference => CharClass.difference
  | symmetricDifference => CharClass.symmetricDifference

def ofFront? : List Char → Option ClassOperator
  | '&' :: '&' :: _ => some intersection
  | '-' :: '-' :: _ => some difference
  | '~' :: '~' :: _ => some symmetricDifference
  | _ => none

end ClassOperator

/-- The ranges of the classes of ASCII characters that have a name between
colons. -/
def asciiClassNames : List (String × List (Char × Char)) :=
  [("alnum", [('0', '9'), ('A', 'Z'), ('a', 'z')]),
    ("alpha", [('A', 'Z'), ('a', 'z')]),
    ("ascii", [('\x00', '\x7f')]),
    ("blank", [('\t', '\t'), (' ', ' ')]),
    ("cntrl", [('\x00', '\x1f'), ('\x7f', '\x7f')]),
    ("digit", [('0', '9')]),
    ("graph", [('!', '~')]),
    ("lower", [('a', 'z')]),
    ("print", [(' ', '~')]),
    ("punct", [('!', '/'), (':', '@'), ('[', '\x60'), ('\x7b', '~')]),
    ("space", [('\t', '\r'), (' ', ' ')]),
    ("upper", [('A', 'Z')]),
    ("word", [('0', '9'), ('A', 'Z'), ('_', '_'), ('a', 'z')]),
    ("xdigit", [('0', '9'), ('A', 'F'), ('a', 'f')])]

namespace Read

/-- The complement of a class with its case folded, or just that class. Where
bytes are told apart, a complement would hold bytes that are no characters. -/
def foldedAndNegated (span : Span) (negated : Bool) (among : CharClass) :
    Read CharClass := do
  let flags ← flags
  if negated && !flags.unicode then object span .brokenText
  return .negatedIf negated (flags.foldCase among)

/-! ## Named classes -/

/-- What stands in front of a colon and a bracket at the front of a text, and
what stands behind them. There is no other colon in it. -/
def uptoColon? (text : List Char) : Option (List Char × List Char) :=
  match text.dropWhile (· ≠ ':') with
  | ':' :: ']' :: rest => some (text.takeWhile (· ≠ ':'), rest)
  | _ => none

/-- The class whose name stands between colons in brackets, if there is one
next. Anything else is left as it is. -/
def asciiNamed? : Read (Option CharClass) := do
  let reading ← get
  let start ← position
  match reading.rest with
  | '[' :: ':' :: text =>
      let (negated, text) :=
        match text with
        | '^' :: text => (true, text)
        | _ => (false, text)
      match uptoColon? text with
      | none => return none
      | some (name, rest) =>
          match asciiClassNames.lookup (String.ofList name) with
          | none => return none
          | some ranges =>
              set { reading with rest }
              let span : Span := ⟨start, ← position⟩
              return some
                (← foldedAndNegated span negated (.ofRanges ranges))
  | _ => return none

/-! ## Characters and ranges -/

/-- A character or an escape in brackets. -/
def classAtom : Read Placed := do
  match ← next? with
  | some '\\' => escape
  | some c =>
      let start ← position
      skip
      return ⟨.literal c, ⟨start, start + 1⟩⟩
  | none => failHere .unclosedClass

/-- The character that is an end of a range. -/
def rangeEnd (placed : Placed) : Read Char := do
  match placed.atom with
  | .literal c | .byte c => return c
  | _ => throw ⟨placed.span, .invalidRangeEnd⟩

/-- Object to a character in brackets where bytes are told apart and the
character is not one. -/
def checkByte (placed : Placed) : Read Unit := do
  unless (← flags).unicode do
    match placed.atom with
    | .literal c => if 128 ≤ c.toNat then object placed.span .propertyOfBytes
    | .byte c => if 128 ≤ c.toNat then object placed.span .brokenText
    | _ => return ()

/-- The class of a single member of brackets. -/
def memberClass (placed : Placed) : Read CharClass := do
  match placed.atom with
  | .literal c | .byte c =>
      checkByte placed
      return .single c
  | .named among => return among
  | _ => throw ⟨placed.span, .invalidClassMember⟩

/-- The first character behind the next one, as far as it matters for a hyphen
in brackets. Where blanks are passed over, white space is, and a number sign
with the white space behind it. -/
def behindHyphen? : Read (Option Char) := do
  let reading ← get
  let behind := reading.rest.drop 1
  if reading.flags.spaced then
    let plain :=
      match behind.dropWhile Text.isSpace with
      | '#' :: rest => rest.dropWhile Text.isSpace
      | rest => rest
    return (plain.head?).or behind.head?
  else return behind.head?

/-- The next member of brackets that are open at a span: a range, or anything
else but brackets. -/
def classMember (opening : Span) : Read CharClass := do
  let first ← classAtom
  skipBlanks
  match ← next? with
  | none => throw ⟨opening, .unclosedClass⟩
  | some c =>
      let behind ← behindHyphen?
      if c = '-' && behind ≠ some ']' && behind ≠ some '-' then
        advance
        if (← next?).isNone then throw ⟨opening, .unclosedClass⟩
        let last ← classAtom
        let low ← rangeEnd first
        let high ← rangeEnd last
        if high < low then
          failBetween first.span.start last.span.stop .decreasingRange
        checkByte first
        checkByte last
        return .range low high
      else memberClass first

/-! ## Brackets -/

/-- The opening of brackets. -/
structure Opening where
  span : Span
  negated : Bool
  /-- The members that stand for themselves because they come first. -/
  members : CharClass
  deriving Repr

/-- The hyphens that come first in brackets, as a class, if there are any. -/
def leadingHyphens (start : Nat) : (fuel : Nat) → CharClass → Read CharClass
  | 0, members => return members
  | fuel + 1, members => do
      if (← next?) = some '-' then
        advance
        if (← next?).isNone then failBetween start start .unclosedClass
        leadingHyphens start fuel (.single '-')
      else return members

/-- Pass over an opening bracket and what belongs to it: a caret, and hyphens or
a closing bracket that come first. -/
def classOpening : Read Opening := do
  let start ← position
  advance
  if (← next?).isNone then failFrom start .unclosedClass
  let negated := (← next?) = some '^'
  if negated then
    advance
    if (← next?).isNone then failFrom start .unclosedClass
  let hyphens ← leadingHyphens start (← get).rest.length .nothing
  if hyphens = .nothing && (← next?) = some ']' then
    advance
    if (← next?).isNone then failFrom start .unclosedClass
    return ⟨⟨start, ← position⟩, negated, .single ']'⟩
  else return ⟨⟨start, ← position⟩, negated, hyphens⟩

/-- The class that a union finishes, together with what stands in front of the
operator before it. -/
def combined (before : Option (CharClass × ClassOperator))
    (union : CharClass) : Read CharClass := do
  match before with
  | none => return union
  | some (left, operator) =>
      let flags ← flags
      return operator.apply (flags.foldCase left) (flags.foldCase union)

/-- The members of brackets up to the closing one. -/
def classMembers : (fuel : Nat) → Opening →
    (before : Option (CharClass × ClassOperator)) → (union : CharClass) →
    Read CharClass
  | 0, opening, _, _ => throw ⟨opening.span, .unclosedClass⟩
  | fuel + 1, opening, before, union => do
      skipBlanks
      match (← get).rest with
      | [] => throw ⟨opening.span, .unclosedClass⟩
      | ']' :: _ =>
          skip
          let among ← combined before union
          foldedAndNegated ⟨opening.span.start, ← position⟩ opening.negated
            among
      | '[' :: _ =>
          match ← asciiNamed? with
          | some among =>
              classMembers fuel opening before (.union union among)
          | none =>
              let inner ← classOpening
              let among ← classMembers fuel inner none inner.members
              classMembers fuel opening before (.union union among)
      | rest =>
          match ClassOperator.ofFront? rest with
          | some operator =>
              let left ← combined before union
              skip
              skip
              classMembers fuel opening (some (left, operator)) .nothing
          | none =>
              let among ← classMember opening.span
              classMembers fuel opening before (.union union among)

/-- A class in brackets, the first of which comes next. -/
def bracketed : Read CharClass := do
  let opening ← classOpening
  classMembers (← get).rest.length.succ opening none opening.members

end Read

end Preflight.Pattern
