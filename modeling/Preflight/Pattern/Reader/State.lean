import Preflight.Pattern.Basic
import Preflight.Pattern.Fault
import Preflight.Text.Word

/-!
# The state of reading a pattern

A pattern is read from the front of its text to the end. Beside what is left of
the text, reading keeps the flags that are set, the names of groups, and the
first objection to a part that is well-formed but cannot be taken: it counts
only if the rest of the text is well-formed.
-/

namespace Preflight.Pattern

/-- The flags that may be set in a pattern. -/
inductive Flag where
  | insensitive
  | lineWise
  | dotAll
  | lazy
  | unicode
  | returns
  | spaced
  deriving DecidableEq, Repr

def Flag.ofLetter? : Char → Option Flag
  | 'i' => some insensitive
  | 'm' => some lineWise
  | 's' => some dotAll
  | 'U' => some lazy
  | 'u' => some unicode
  | 'R' => some returns
  | 'x' => some spaced
  | _ => none

/-- Which flags are set. -/
structure Flags where
  /-- Letters match in either case. -/
  insensitive : Bool := false
  /-- Line anchors hold at every line. -/
  lineWise : Bool := false
  /-- The dot admits line ends. -/
  dotAll : Bool := false
  /-- Characters of all scripts are told apart; otherwise bytes are. -/
  unicode : Bool := true
  /-- A return ends a line, too. -/
  returns : Bool := false
  /-- White space and comments are passed over. -/
  spaced : Bool := false
  deriving DecidableEq, Repr

namespace Flags

/-- The flags after one is set or cleared. How eagerly parts repeat makes no
difference to whether a pattern occurs. -/
def put (flags : Flags) (value : Bool) : Flag → Flags
  | .insensitive => { flags with insensitive := value }
  | .lineWise => { flags with lineWise := value }
  | .dotAll => { flags with dotAll := value }
  | .lazy => flags
  | .unicode => { flags with unicode := value }
  | .returns => { flags with returns := value }
  | .spaced => { flags with spaced := value }

/-- The characters that end a line. -/
def lineEnd (flags : Flags) : LineEnd :=
  if flags.returns then .returnOrFeed else .feed

/-- The class with case folded, if letters match in either case. -/
def foldCase (flags : Flags) (among : CharClass) : CharClass :=
  if flags.insensitive then
    .folded (if flags.unicode then .simple else .ascii) among
  else among

end Flags

/-- How far a pattern is read. -/
structure Reading where
  /-- How many characters the whole text has. -/
  size : Nat
  rest : List Char
  flags : Flags := {}
  /-- The names of groups and where they are given. -/
  names : List (List Char × Span) := []
  objection? : Option Fault := none
  deriving Repr

/-- Reading a part of a pattern, which may be at fault. -/
abbrev Read := StateT Reading (Except Fault)

/-- A text without white space and comments at its front. A comment starts at a
number sign and goes up to the end of the line. -/
def dropBlanks : (inComment : Bool) → List Char → List Char
  | _, [] => []
  | true, c :: rest => dropBlanks (c ≠ '\n') rest
  | false, c :: rest =>
      if Text.isSpace c then dropBlanks false rest
      else if c = '#' then dropBlanks true rest
      else c :: rest

namespace Read

/-- How many characters have been passed. -/
def position : Read Nat := do
  let reading ← get
  return reading.size - reading.rest.length

def next? : Read (Option Char) := do
  return (← get).rest.head?

def flags : Read Flags := do
  return (← get).flags

/-- Pass over the next character. -/
def skip : Read Unit :=
  modify fun reading => { reading with rest := reading.rest.drop 1 }

/-- Pass over white space and comments where the flags say so. -/
def skipBlanks : Read Unit :=
  modify fun reading =>
    if reading.flags.spaced then
      { reading with rest := dropBlanks false reading.rest }
    else reading

/-- Pass over the next character and blanks behind it. -/
def advance : Read Unit := do
  skip
  skipBlanks

/-- Pass over a text if it comes next, and say whether it did. -/
def accept (expected : String) : Read Bool := do
  let reading ← get
  match Text.dropStart? expected.toList reading.rest with
  | some rest =>
      set { reading with rest }
      return true
  | none => return false

/-- A fault between two places. -/
def failBetween {α : Type} (start stop : Nat) (cause : Cause) : Read α :=
  throw ⟨⟨start, stop⟩, cause⟩

/-- A fault from a place up to here. -/
def failFrom {α : Type} (start : Nat) (cause : Cause) : Read α := do
  failBetween start (← position) cause

/-- A fault between two characters, here. -/
def failHere {α : Type} (cause : Cause) : Read α := do
  let here ← position
  failBetween here here cause

/-- A fault of the next character. -/
def failAtNext {α : Type} (cause : Cause) : Read α := do
  let here ← position
  failBetween here (here + 1) cause

/-- Object to what has been read from a place up to here, unless there is an
objection already. -/
def object (span : Span) (cause : Cause) : Read Unit :=
  modify fun reading =>
    { reading with
      objection? := reading.objection? <|> some ⟨span, cause⟩ }

/-- The next characters as long as a test holds, at most so many, passed over
with the blanks behind each. -/
def takeWhile (test : Char → Bool) : (fuel : Nat) → Read (List Char)
  | 0 => return []
  | fuel + 1 => do
      match ← next? with
      | some c =>
          if test c then
            advance
            return c :: (← takeWhile test fuel)
          else return []
      | none => return []

/-- All the next characters for which a test holds, passed over with the blanks
behind each. -/
def spanWhile (test : Char → Bool) : Read (List Char) := do
  takeWhile test (← get).rest.length

/-- Pass over the next characters that are white space, and the blanks behind
each. -/
def skipSpaces : Read Unit := do
  let _ ← spanWhile Text.isSpace

end Read

end Preflight.Pattern
