/-!
# Issues

An issue is one finding about a text: how serious it is, what it says, and,
if there are any, the line it concerns and a suggestion.
-/

namespace Preflight

/-- How serious an issue is. -/
inductive Severity where
  /-- Advice on style only. -/
  | info
  /-- A likely problem. -/
  | warn
  /-- Almost certainly refused by the compiler. -/
  | error
  deriving DecidableEq, Repr

namespace Severity

/-- The name of a severity in data and, in capitals, in text. -/
def name : Severity → String
  | info => "info"
  | warn => "warn"
  | error => "error"

/-- The label of a severity in text. -/
def label : Severity → String
  | info => "INFO"
  | warn => "WARN"
  | error => "ERROR"

/-- Severities in increasing order. -/
def rank : Severity → Nat
  | info => 0
  | warn => 1
  | error => 2

/-- The more serious of two severities. -/
def worse (first second : Severity) : Severity :=
  if first.rank < second.rank then second else first

end Severity

/-- A finding. The line is counted from one and absent when the finding
concerns the whole text. -/
structure Issue where
  severity : Severity
  message : String
  line : Option Nat := none
  suggestion : Option String := none
  deriving DecidableEq, Repr

end Preflight
