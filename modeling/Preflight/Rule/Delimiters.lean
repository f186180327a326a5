import Preflight.Delimiter.Scan
import Preflight.Issue

/-!
# The delimiter rule

The first delimiter that does not nest is an error. The issue keeps the line
of its position and drops the column.
-/

namespace Preflight

namespace Imbalance

/-- What an imbalance says. -/
def message (imbalance : Imbalance) : String :=
  let quoted := "\"" ++ imbalance.character.toString ++ "\""
  match imbalance.kind with
  | .unmatchedClosing => "Unmatched delimiter " ++ quoted
  | .unclosed => "Missing closing delimiter for " ++ quoted

/-- What to do about an imbalance. -/
def suggestion (imbalance : Imbalance) : String :=
  match imbalance.kind with
  | .unmatchedClosing => "Check parentheses, brackets, and braces."
  | .unclosed => "Close all opened delimiters before running."

def issue (imbalance : Imbalance) : Issue :=
  { severity := .error
    message := imbalance.message
    line := some imbalance.position.line
    suggestion := some imbalance.suggestion }

end Imbalance

/-- The delimiter issue of a text, if it has one. -/
def Rule.delimiterIssues (text : List Char) : List Issue :=
  (Delimiter.scan text).toList.map Imbalance.issue

end Preflight
