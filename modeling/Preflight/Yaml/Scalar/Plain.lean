import Preflight.Yaml.Cursor
import Preflight.Yaml.Scalar.Folding

/-!
# Plain scalars

A plain scalar goes on over blanks and line breaks until a comment, a colon
with a gap behind it, a document marker or a line that is not indented far
enough. Inside a flow collection the indicators of the collection end it too.
-/

namespace Preflight.Yaml

/-- Whether a plain scalar can start here. -/
def startsPlain (inFlow : Bool) (cursor : Cursor) : Bool :=
  match cursor.head? with
  | none => false
  | some c =>
      if c = '-' then !isGap cursor.second?
      else if c = '?' || c = ':' then !inFlow && !isGap cursor.second?
      else !isGap (some c) && !isIndicator c

/-- Whether a plain scalar ends in front of a character. -/
def endsPlain (inFlow : Bool) (c : Char) (next : Option Char) : Bool :=
  (c = ':' && isGap next) || (inFlow && isFlowIndicator c)

/-- Whether a colon stands where a plain scalar must not have one. -/
def isMisplacedColon (inFlow : Bool) (c : Char) (next : Option Char) : Bool :=
  inFlow && c = ':' && next.any fun n => isFlowIndicator n || n = '?'

/-- Read a plain scalar. `reversed` is its text so far, and `floor` the least
column at which it may go on when a line has ended. -/
def plainFrom (inFlow : Bool) (floor : Nat) : (reversed : List Char) →
    Pending → Place → List Char → Option (List Char × Bool × Cursor)
  | reversed, pending, place, [] =>
      some (reversed.reverse, pending.broken, ⟨[], place⟩)
  | reversed, pending, place, c :: rest =>
      if isBreak c then
        plainFrom inFlow floor reversed (pending.addBreak c) (place.after c)
          rest
      else if isBlank c then
        if pending.broken && c = '\t' && place.column < floor then none
        else
          plainFrom inFlow floor reversed (pending.addBlank c) (place.after c)
            rest
      else if
          (c = '#' && !pending.isEmpty) ||
            (pending.broken &&
              (Cursor.atMarker ⟨c :: rest, place⟩ ||
                (!inFlow && place.column < floor))) ||
            endsPlain inFlow c rest.head? then
        some (reversed.reverse, pending.broken, ⟨c :: rest, place⟩)
      else if isMisplacedColon inFlow c rest.head? then none
      else
        plainFrom inFlow floor
          (c :: ((pending.text false).reverse ++ reversed)) {} (place.after c)
          rest

/-- Read the plain scalar that starts here. Gives its text, whether a line has
ended behind it, and the place behind the white space that follows it. -/
def readPlain (inFlow : Bool) (floor : Nat) (cursor : Cursor) :
    Option (List Char × Bool × Cursor) :=
  plainFrom inFlow floor [] {} cursor.place cursor.rest

end Preflight.Yaml
