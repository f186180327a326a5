/-!
# Folding

Inside plain and quoted scalars line breaks fold: one break becomes a space,
and of several the first is dropped. Only line feeds fold; a line that ends in
another break keeps all of them.
-/

namespace Preflight.Yaml

/-- White space that has been read inside a scalar and not yet been put into
its text. Blanks count only before the first break. Both lists are
reversed. -/
structure Pending where
  blanks : List Char := []
  breaks : List Char := []
  /-- Whether a line has ended, in a break or in an escaped one. -/
  broken : Bool := false
  deriving Repr

namespace Pending

def isEmpty (pending : Pending) : Bool :=
  pending.blanks.isEmpty && !pending.broken

def addBlank (pending : Pending) (c : Char) : Pending :=
  if pending.broken then pending
  else { pending with blanks := c :: pending.blanks }

/-- A break drops the blanks before it. -/
def addBreak (pending : Pending) (c : Char) : Pending :=
  { blanks := [], breaks := c :: pending.breaks, broken := true }

/-- A line that ended in an escaped break, which leaves nothing behind. -/
def escapedBreak : Pending := { broken := true }

/-- What folded line breaks become. -/
def fold : List Char → List Char
  | [] => []
  | '\n' :: [] => [' ']
  | '\n' :: more => more
  | breaks => breaks

/-- The breaks of a line that ended in an escaped break are all kept. -/
def text (pending : Pending) (escaped : Bool) : List Char :=
  if pending.broken then
    if escaped then pending.breaks.reverse else fold pending.breaks.reverse
  else pending.blanks.reverse

end Pending

end Preflight.Yaml
