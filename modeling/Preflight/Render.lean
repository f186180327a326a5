import Preflight.Analysis

/-!
# Text for people

An analysis is written as one entry per issue, or a line that says that there
are none, and then, unless it is left out, a footer with counts and measures.
Colour is added by escape sequences around the labels and changes nothing
else.
-/

namespace Preflight

/-- The colours of labels. -/
inductive Ink where
  | boldRed
  | boldYellow
  | boldGreen
  | blue
  | bold
  deriving DecidableEq, Repr

namespace Ink

def parameters : Ink → String
  | boldRed => "1;31"
  | boldYellow => "1;33"
  | boldGreen => "1;32"
  | blue => "34"
  | bold => "1"

/-- A label in an ink, between the sequence that starts it and the one that
ends it. -/
def paint (ink : Ink) (label : String) : String :=
  "\x1b[" ++ ink.parameters ++ "m" ++ label ++ "\x1b[0m"

def ofSeverity : Severity → Ink
  | .error => boldRed
  | .warn => boldYellow
  | .info => blue

end Ink

/-- How text is written. -/
structure Style where
  /-- Whether labels have colours. -/
  colored : Bool
  /-- Whether the footer is written. -/
  footer : Bool
  deriving DecidableEq, Repr

namespace Style

/-- A label, in its ink if the style has colours. -/
def label (style : Style) (ink : Ink) (text : String) : String :=
  if style.colored then ink.paint text else text

/-- One issue: severity, line and message and, on a line of its own, the
suggestion. -/
def issueText (style : Style) (issue : Issue) : String :=
  let heading :=
    style.label (Ink.ofSeverity issue.severity) issue.severity.label
  let place :=
    match issue.line with
    | some line => " (line " ++ toString line ++ ")"
    | none => ""
  let advice :=
    match issue.suggestion with
    | some suggestion =>
        "\n  " ++ style.label .bold "Suggestion:" ++ " " ++ suggestion
    | none => ""
  heading ++ place ++ ": " ++ issue.message ++ advice

/-- The line in place of issues when there are none. -/
def passLine (style : Style) : String :=
  style.label .boldGreen "PASS" ++
    ": No obvious issues detected by the heuristic checker.\n"

/-- All issues, each with a line feed behind it, or the line in place of
them. -/
def issuesText (style : Style) : List Issue → String
  | [] => style.passLine
  | issues =>
      issues.foldr (fun issue later => style.issueText issue ++ "\n" ++ later)
        ""

/-- The footer: how many issues there are of each severity, and the
measures. -/
def footerText (analysis : Analysis) : String :=
  "\n" ++ toString (analysis.count .error) ++ " error(s), " ++
    toString (analysis.count .warn) ++ " warning(s), " ++
    toString (analysis.count .info) ++ " info\n" ++
    "tokens: " ++ toString analysis.estimatedTokenCount ++
    "  shorthand hits: " ++ toString analysis.keywordHitCount ++
    "  comparative tokens: " ++ toString analysis.comparativeTokenCount ++
    "  non-empty lines: " ++ toString analysis.nonEmptyLineCount ++ "\n"

def analysisText (style : Style) (analysis : Analysis) : String :=
  style.issuesText analysis.issues ++
    if style.footer then footerText analysis else ""

end Style

end Preflight
