import Preflight.Issue

/-!
# Analyses

An analysis is what is known about a text after all rules have run: four
measures of the text and the issues found, in the order of the rules.
-/

namespace Preflight

/-- The result of analysing one text. -/
structure Analysis where
  nonEmptyLineCount : Nat := 0
  estimatedTokenCount : Nat := 0
  comparativeTokenCount : Nat := 0
  keywordHitCount : Nat := 0
  issues : List Issue := []
  deriving DecidableEq, Repr

namespace Analysis

def count (analysis : Analysis) (severity : Severity) : Nat :=
  analysis.issues.countP fun issue => issue.severity = severity

def hasErrors (analysis : Analysis) : Bool :=
  analysis.issues.any fun issue => issue.severity = .error

def isClean (analysis : Analysis) : Bool :=
  analysis.issues.isEmpty

/-- The greatest severity among the issues, if there are any. -/
def worstSeverity? (analysis : Analysis) : Option Severity :=
  (analysis.issues.map Issue.severity).foldl
    (fun worst severity => some (worst.elim severity (·.worse severity))) none

def addIssue (analysis : Analysis) (issue : Issue) : Analysis :=
  { analysis with issues := analysis.issues ++ [issue] }

/-- The analysis with its errors only. The measures stay as they are. -/
def errorsOnly (analysis : Analysis) : Analysis :=
  { analysis with
    issues := analysis.issues.filter fun issue => issue.severity = .error }

end Analysis

end Preflight
