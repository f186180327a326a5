import Preflight.Delimiter.Basic
import Preflight.Position

/-!
# Delimiter scan

One pass over a text keeps the openers that wait for their partner. A closer
that meets the wrong opener, or none, ends the scan at once. At the end of the
text the innermost opener still waiting is the one reported.
-/

namespace Preflight

/-- An opener that waits for its partner. -/
structure Frame where
  delimiter : Delimiter
  position : Position
  deriving DecidableEq, Repr

namespace Imbalance

/-- The two ways in which delimiters fail to nest. -/
inductive Kind where
  /-- A closer without an opener, or with the wrong one. -/
  | unmatchedClosing
  /-- An opener that is still open at the end of the text. -/
  | unclosed
  deriving DecidableEq, Repr

end Imbalance

/-- The first delimiter of a text that does not nest. -/
structure Imbalance where
  kind : Imbalance.Kind
  character : Char
  position : Position
  deriving DecidableEq, Repr

/-- What is wrong when the text ends while these openers wait. -/
def Imbalance.atEnd? : List Frame → Option Imbalance
  | [] => none
  | frame :: _ => some ⟨.unclosed, frame.delimiter.opener, frame.position⟩

/-- A scan under way: the openers that wait, innermost first, and the place of
the character read last. -/
structure Pending where
  waiting : List Frame
  place : Position
  deriving DecidableEq, Repr

namespace Pending

/-- A scan that has read nothing. -/
def start : Pending := ⟨[], Position.beforeText⟩

/-- Read one more character. A closer must meet its own opener. -/
def read (pending : Pending) (c : Char) : Except Imbalance Pending :=
  let here := pending.place.next c
  match Delimiter.role c with
  | .neutral => .ok ⟨pending.waiting, here⟩
  | .opens delimiter => .ok ⟨⟨delimiter, here⟩ :: pending.waiting, here⟩
  | .closes delimiter =>
      match pending.waiting with
      | [] => .error ⟨.unmatchedClosing, c, here⟩
      | frame :: outer =>
          if frame.delimiter = delimiter then .ok ⟨outer, here⟩
          else .error ⟨.unmatchedClosing, c, here⟩

/-- Read a text, up to the first closer that does not fit. -/
def readAll : Pending → List Char → Except Imbalance Pending
  | pending, [] => .ok pending
  | pending, c :: rest =>
      match pending.read c with
      | .ok next => next.readAll rest
      | .error imbalance => .error imbalance

end Pending

namespace Delimiter

/-- The first imbalance of a text, if it has one. -/
def scan (text : List Char) : Option Imbalance :=
  match Pending.start.readAll text with
  | .ok pending => Imbalance.atEnd? pending.waiting
  | .error imbalance => some imbalance

end Delimiter

end Preflight
