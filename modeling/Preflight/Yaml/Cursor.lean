import Preflight.Yaml.Character

/-!
# Places in a YAML text

Reading moves a cursor, which knows what is left of the text and where it
stands. Lines and columns count from zero here, as indentation does; the index
counts bytes, as the limit on the length of a key does.
-/

namespace Preflight.Yaml

open Text (dropStart?)

/-- A place in a text. -/
structure Place where
  /-- How many bytes stand before the place. -/
  index : Nat := 0
  line : Nat := 0
  column : Nat := 0
  deriving DecidableEq, Repr

def Place.after (place : Place) (c : Char) : Place :=
  let index := place.index + c.utf8Size
  if isBreak c then ⟨index, place.line + 1, 0⟩
  else ⟨index, place.line, place.column + 1⟩

/-- A place and the text behind it. -/
structure Cursor where
  rest : List Char
  place : Place := {}
  deriving Repr

namespace Cursor

def head? (cursor : Cursor) : Option Char := cursor.rest.head?

/-- The character behind the next one. -/
def second? (cursor : Cursor) : Option Char := (cursor.rest.drop 1).head?

/-- The cursor behind the next `count` characters. -/
def advance (count : Nat) (cursor : Cursor) : Cursor :=
  ⟨cursor.rest.drop count,
    (cursor.rest.take count).foldl Place.after cursor.place⟩

/-- The next characters as long as a test holds. -/
def span (test : Char → Bool) (cursor : Cursor) : List Char :=
  cursor.rest.takeWhile test

/-- The cursor behind the next characters for which a test holds. -/
def skipWhile (test : Char → Bool) (cursor : Cursor) : Cursor :=
  cursor.advance (cursor.span test).length

/-- Whether a document marker stands here: three dashes or three dots at the
start of a line, with a gap behind them. -/
def startsMarker (marker : String) (cursor : Cursor) : Bool :=
  cursor.place.column == 0 &&
    match dropStart? marker.toList cursor.rest with
    | some rest => isGap rest.head?
    | none => false

/-- Whether either document marker stands here. -/
def atMarker (cursor : Cursor) : Bool :=
  cursor.startsMarker "---" || cursor.startsMarker "..."

/-- The end of the line, behind blanks and a comment; nothing if anything else
stands in between. -/
def lineEnd? (cursor : Cursor) : Option Cursor :=
  let behind := cursor.skipWhile isBlank
  let ending :=
    if behind.head? = some '#' then behind.skipWhile fun c => !isBreak c
    else behind
  if ending.head?.all isBreak then some ending else none

end Cursor

end Preflight.Yaml
