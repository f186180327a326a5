import Preflight.Text.Word

/-!
# Output previews

Nothing is run. A preview of the output of a program is the string literals
passed directly to `print(...)`, in the order of the text. A literal ends at
the next quote, has no escapes and may span lines. Searching goes on behind
each call found, so calls found never overlap.
-/

namespace Preflight

open Text

/-- What a program is expected to print. -/
inductive Preview where
  /-- The literals printed, of which there is at least one. -/
  | printed (literals : List (List Char))
  /-- There is no literal to go by. -/
  | unavailable
  deriving DecidableEq, Repr

namespace Preview

def callStart : List Char := "print(\"".toList

def callEnd : List Char := "\")".toList

/-- Split a text at its first quote; the quote belongs to the second part. -/
def splitAtQuote (text : List Char) : List Char × List Char :=
  text.span (· ≠ '"')

/-- The literal of the printing call that starts a text, if one does. -/
def literalAt? (text : List Char) : Option (List Char) :=
  match dropStart? callStart text with
  | none => none
  | some rest =>
      let parts := splitAtQuote rest
      (dropStart? callEnd parts.2).map fun _ => parts.1

/-- The literals printed by the rest of a text. `skipped` says how many
characters still belong to the call found last. -/
def literalsFrom : (skipped : Nat) → List Char → List (List Char)
  | _, [] => []
  | skipped + 1, _ :: rest => literalsFrom skipped rest
  | 0, c :: rest =>
      match literalAt? (c :: rest) with
      | some literal =>
          literal ::
            literalsFrom
              (callStart.length + literal.length + callEnd.length - 1) rest
      | none => literalsFrom 0 rest

def ofText (text : List Char) : Preview :=
  match literalsFrom 0 text with
  | [] => unavailable
  | literals => printed literals

def literalLine (literal : List Char) : List Char :=
  '"' :: literal ++ ['"', '\n']

def trailer : String := "[simulated from print() calls]"

/-- What stands in place of a preview that is unavailable. -/
def notice : String :=
  "Simulation is unavailable for this snippet.\nRun locally:\n" ++
    "forma run playground.forma"

def render : Preview → List Char
  | printed literals => literals.flatMap literalLine ++ trailer.toList
  | unavailable => notice.toList

end Preview

end Preflight
