import Preflight.Fault
import Preflight.Issue
import Preflight.Settings.Basic
import Preflight.Text.Line
import Preflight.Text.Space

/-!
# Line rules

Three rules look at one line at a time: no tabs, indentation in whole steps,
and no overlong lines. Issues come in line order and, within a line, in the
order of the rules.
-/

namespace Preflight

open Text

/-- The rules for single lines, in their order. -/
inductive LineRule where
  | tab
  | indentation
  | length
  deriving DecidableEq, Repr

def LineRule.issue (settings : Settings) (line : Nat) : LineRule → Issue
  | tab =>
      { severity := .error
        message :=
          "Tab characters detected; FORMA uses spaces for indentation."
        line := some line
        suggestion := some "Replace tab characters with spaces." }
  | indentation =>
      { severity := .warn
        message :=
          "Indentation is not a multiple of " ++
            toString settings.indentWidth ++ " spaces."
        line := some line
        suggestion :=
          some ("Normalize indentation to consistent " ++
            toString settings.indentWidth ++ "-space levels.") }
  | length =>
      { severity := .warn
        message :=
          "Very long line; readability and diff quality may degrade."
        line := some line
        suggestion := some "Break expressions across multiple lines." }

namespace Rule

/-- The remainder of a division, or a fault if the divisor is zero. -/
def remainder (dividend divisor : Nat) : Except Fault Nat :=
  if divisor = 0 then .error .remainderByZero else .ok (dividend % divisor)

/-- Whether a line is indented by a broken step. Blank lines are not looked
at. -/
def isMisindented (indentWidth : Nat) (line : List Char) :
    Except Fault Bool :=
  if isBlank line then .ok false
  else
    (remainder (leadingSpaces line) indentWidth).map fun left => left ≠ 0

/-- The rules that a line breaks. -/
def brokenRules (settings : Settings) (line : List Char) :
    Except Fault (List LineRule) :=
  (isMisindented settings.indentWidth line).map fun misindented =>
    (if line.contains '\t' then [.tab] else []) ++
      (if misindented then [.indentation] else []) ++
      (if settings.maxLineLength < line.length then [.length] else [])

/-- The issues of lines that are numbered from `number` on. -/
def lineIssuesFrom (settings : Settings) :
    (number : Nat) → List (List Char) → Except Fault (List Issue)
  | _, [] => .ok []
  | number, line :: rest => do
      let broken ← brokenRules settings line
      let later ← lineIssuesFrom settings (number + 1) rest
      return broken.map (LineRule.issue settings number) ++ later

def lineIssues (settings : Settings) (lines : List (List Char)) :
    Except Fault (List Issue) :=
  lineIssuesFrom settings 1 lines

/-- With a positive step no line causes a fault. -/
theorem lineIssuesFrom_isOk {settings : Settings}
    (positive : settings.indentWidth ≠ 0) (number : Nat)
    (lines : List (List Char)) :
    ∃ issues, lineIssuesFrom settings number lines = .ok issues := by
  induction lines generalizing number with
  | nil => exact ⟨[], rfl⟩
  | cons line rest inductionHypothesis =>
      obtain ⟨later, laterFound⟩ := inductionHypothesis (number + 1)
      have brokenFound :
          ∃ broken, brokenRules settings line = .ok broken := by
        unfold brokenRules isMisindented remainder
        rw [if_neg positive]
        cases isBlank line <;> exact ⟨_, rfl⟩
      obtain ⟨broken, brokenFound⟩ := brokenFound
      exact ⟨_, by
        simp only [lineIssuesFrom, brokenFound, laterFound]
        rfl⟩

end Rule

end Preflight
