import Preflight.Analysis
import Preflight.Position

/-!
# Reports

A report shows the one finding of an analysis that matters most: the first
error or, without errors, the first warning. Mere information never reaches a
report. Without errors and warnings the report gives the measures of the text.
-/

namespace Preflight

/-- The measures in a favourable report. -/
structure Metrics where
  estimatedTokenCount : Nat
  comparativeTokenCount : Nat
  keywordHitCount : Nat
  nonEmptyLineCount : Nat
  deriving DecidableEq, Repr

/-- Whether the finding of a report is an error or a warning. -/
inductive FindingKind where
  | parseError
  | warning
  deriving DecidableEq, Repr

/-- A report on one text. -/
inductive Report where
  | ok (message : String) (metrics : Metrics) (nextStepHint : String)
  | needsAttention (kind : FindingKind) (message : String)
      (location : Position) (suggestion : String)
  deriving DecidableEq, Repr

namespace Report

def isOk : Report → Bool
  | ok .. => true
  | needsAttention .. => false

def status : Report → String
  | ok .. => "ok"
  | needsAttention .. => "needs_attention"

/-- What a favourable report says. -/
def okMessage : String := "No heuristic issues detected."

/-- What a favourable report proposes to do next. -/
def nextStep : String := "forma check --partial playground.forma"

/-- The suggestion for an issue that has none of its own. -/
def fallbackSuggestion : String :=
  "Run `forma check --error-format json` for compiler-verified diagnostics."

/-- The first error and the first warning among the issues passed so far. -/
structure Leading where
  error? : Option Issue := none
  warning? : Option Issue := none
  deriving DecidableEq, Repr

/-- Pass one more issue. An issue leads if no issue of its severity was passed
before. -/
def Leading.pass (leading : Leading) (issue : Issue) : Leading :=
  match issue.severity, leading with
  | .error, ⟨none, warning?⟩ => ⟨some issue, warning?⟩
  | .warn, ⟨error?, none⟩ => ⟨error?, some issue⟩
  | _, _ => leading

/-- The issue that a report shows: the first error, else the first
warning. -/
def shownIssue? (issues : List Issue) : Option Issue :=
  let leading := issues.foldl Leading.pass {}
  leading.error?.or leading.warning?

/-- The report that shows an issue. It knows lines only, so the column is
always one, as is the line of an issue without a line. -/
def ofIssue (issue : Issue) : Report :=
  needsAttention
    (if issue.severity = .error then .parseError else .warning)
    issue.message
    ⟨issue.line.getD 1, 1⟩
    (issue.suggestion.getD fallbackSuggestion)

def ofAnalysis (analysis : Analysis) : Report :=
  match shownIssue? analysis.issues with
  | some issue => ofIssue issue
  | none =>
      ok okMessage
        { estimatedTokenCount := analysis.estimatedTokenCount
          comparativeTokenCount := analysis.comparativeTokenCount
          keywordHitCount := analysis.keywordHitCount
          nonEmptyLineCount := analysis.nonEmptyLineCount }
        nextStep

end Report

end Preflight
