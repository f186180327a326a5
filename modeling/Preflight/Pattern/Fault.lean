/-!
# Faults of patterns

The text of a pattern may be at fault. A fault has a cause and a place, and is
told by showing the text with the place marked below it.
-/

namespace Preflight.Pattern

/-- A piece of the text of a pattern, from a character up to another. -/
structure Span where
  start : Nat
  stop : Nat
  deriving DecidableEq, Repr

/-- What is wrong with the text of a pattern. -/
inductive Cause where
  | unclosedGroup
  | unopenedGroup
  | lookAround
  | emptyGroupName
  | invalidGroupName
  | unclosedGroupName
  /-- The span is where the name is given first. -/
  | repeatedGroupName (earlier : Span)
  | unknownFlag
  /-- The span is where the flag is given first. -/
  | repeatedFlag (earlier : Span)
  /-- The span is where flags are negated first. -/
  | repeatedNegation (earlier : Span)
  | danglingNegation
  | unfinishedFlags
  | nothingToRepeat
  | unclosedCount
  | emptyCount
  | oversizedCount
  | decreasingCounts
  | unclosedClass
  | decreasingRange
  | invalidRangeEnd
  | invalidClassMember
  | unfinishedEscape
  | unknownEscape
  | backreference
  | emptyCode
  | invalidCodeDigit
  | invalidCode
  | unclosedWordEdge
  | unknownWordEdge
  | unfinishedWordEdge
  | invalidProperty
  | unknownProperty
  | unknownPropertyValue
  | propertyOfBytes
  | brokenText
  deriving DecidableEq, Repr

namespace Cause

def message : Cause → String
  | unclosedGroup => "unclosed group"
  | unopenedGroup => "unopened group"
  | lookAround =>
      "look-around, including look-ahead and look-behind, is not supported"
  | emptyGroupName => "empty capture group name"
  | invalidGroupName => "invalid capture group character"
  | unclosedGroupName => "unclosed capture group name"
  | repeatedGroupName _ => "duplicate capture group name"
  | unknownFlag => "unrecognized flag"
  | repeatedFlag _ => "duplicate flag"
  | repeatedNegation _ => "flag negation operator repeated"
  | danglingNegation => "dangling flag negation operator"
  | unfinishedFlags => "expected flag but got end of regex"
  | nothingToRepeat => "repetition operator missing expression"
  | unclosedCount => "unclosed counted repetition"
  | emptyCount => "repetition quantifier expects a valid decimal"
  | oversizedCount => "decimal literal invalid"
  | decreasingCounts =>
      "invalid repetition count range, the start must be <= the end"
  | unclosedClass => "unclosed character class"
  | decreasingRange =>
      "invalid character class range, the start must be <= the end"
  | invalidRangeEnd => "invalid range boundary, must be a literal"
  | invalidClassMember => "invalid escape sequence found in character class"
  | unfinishedEscape =>
      "incomplete escape sequence, reached end of pattern prematurely"
  | unknownEscape => "unrecognized escape sequence"
  | backreference => "backreferences are not supported"
  | emptyCode => "hexadecimal literal empty"
  | invalidCodeDigit => "invalid hexadecimal digit"
  | invalidCode => "hexadecimal literal is not a Unicode scalar value"
  | unclosedWordEdge =>
      "special word boundary assertion is either unclosed or contains an " ++
        "invalid character"
  | unknownWordEdge =>
      "unrecognized special word boundary assertion, valid choices are: " ++
        "start, end, start-half or end-half"
  | unfinishedWordEdge =>
      "found either the beginning of a special word boundary or a bounded " ++
        "repetition on a \\b with an opening brace, but no closing brace"
  | invalidProperty => "invalid Unicode character class"
  | unknownProperty => "Unicode property not found"
  | unknownPropertyValue => "Unicode property value not found"
  | propertyOfBytes => "Unicode not allowed here"
  | brokenText => "pattern can match invalid UTF-8"

/-- The earlier place that a cause refers to. -/
def earlier? : Cause → Option Span
  | repeatedGroupName earlier | repeatedFlag earlier
  | repeatedNegation earlier => some earlier
  | _ => none

end Cause

/-- A fault of the text of a pattern. -/
structure Fault where
  span : Span
  cause : Cause
  deriving DecidableEq, Repr

/-! ## Showing places -/

/-- A line and a column of a text, counted from zero. -/
structure Location where
  line : Nat
  column : Nat
  deriving DecidableEq, Repr

namespace Location

def after (location : Location) (c : Char) : Location :=
  if c = '\n' then ⟨location.line + 1, 0⟩
  else ⟨location.line, location.column + 1⟩

/-- The location behind so many characters of a text. -/
def behind (text : List Char) (count : Nat) : Location :=
  (text.take count).foldl after ⟨0, 0⟩

end Location

/-- A span given by locations. -/
structure Extent where
  start : Location
  stop : Location
  deriving DecidableEq, Repr

namespace Extent

/-- The extent of a span of a text. -/
def ofSpan (text : List Char) (span : Span) : Extent :=
  ⟨.behind text span.start, .behind text span.stop⟩

/-- Whether an extent lies in one line. -/
def inOneLine (extent : Extent) : Bool :=
  extent.start.line = extent.stop.line

/-- How an extent over several lines is told. -/
def note (extent : Extent) : String :=
  "on line " ++ toString (extent.start.line + 1) ++ " (column " ++
    toString (extent.start.column + 1) ++ ") through line " ++
    toString (extent.stop.line + 1) ++ " (column " ++
    toString extent.stop.column ++ ")"

/-- The marks below a line for the extents in it, from a column on; at least
one mark for each. -/
def marks : (column : Nat) → List Extent → List Char
  | _, [] => []
  | column, extent :: rest =>
      let size := max 1 (extent.stop.column - extent.start.column)
      let gap := extent.start.column - column
      List.replicate gap ' ' ++ List.replicate size '^' ++
        marks (column + gap + size) rest

end Extent

/-- The lines of a text as they are shown: without the breaks at their ends, and
without an empty line behind the last break. -/
def shownLines (text : List Char) : List (List Char) :=
  let pieces := text.splitOn '\n'
  let complete :=
    if pieces.getLast? = some [] then pieces.dropLast else pieces
  let isLast (index : Nat) : Bool := index + 1 = pieces.length
  complete.mapIdx fun index piece =>
    if piece.getLast? = some '\r' && !isLast index then piece.dropLast
    else piece

namespace Fault

/-- The extents that are marked, in their order. -/
def extents (text : List Char) (fault : Fault) : List Extent :=
  (fault.cause.earlier?.toList ++ [fault.span]).map (Extent.ofSpan text)

/-- What stands in front of a line of the text. A single line is indented, and
one of several has its number, in a column of some width. -/
def margin (width index : Nat) : String :=
  if width = 0 then "    "
  else
    let number := toString (index + 1)
    String.ofList (List.replicate (width - number.length) ' ') ++ number ++
      ": "

/-- The lines of the text, each with the marks below it. -/
def markedLines (text : List Char) (extents : List Extent) : String :=
  let count := text.count '\n' + 1
  let width := if count ≤ 1 then 0 else (toString count).length
  String.join
    ((shownLines text).mapIdx fun index line =>
      let within := extents.filter fun extent =>
        extent.inOneLine && extent.start.line = index
      let below :=
        if within.isEmpty then ""
        else
          String.ofList
            (List.replicate (margin width index).length ' ' ++
              Extent.marks 0 within) ++ "\n"
      margin width index ++ String.ofList line ++ "\n" ++ below)

/-- What a fault in the text of a pattern is told by. -/
def message (text : List Char) (fault : Fault) : String :=
  let extents := fault.extents text
  let lines := markedLines text extents
  let shown :=
    if text.contains '\n' then
      let divider := String.ofList (List.replicate 79 '~') ++ "\n"
      let notes := (extents.filter fun extent => !extent.inOneLine).map
        Extent.note
      let told := if notes.isEmpty then "" else "\n".intercalate notes ++ "\n"
      divider ++ lines ++ divider ++ told
    else lines
  "regex parse error:\n" ++ shown ++ "error: " ++ fault.cause.message

end Fault

end Preflight.Pattern
