import Preflight.Analysis
import Preflight.Rule.Delimiters
import Preflight.Rule.Document
import Preflight.Rule.Lines

/-!
# The analyzer

An analyzer is sound settings. It runs all rules on a text: the line rules,
then the document rules, then the delimiter rule. Sound settings never cause a
fault, so an analyzer has an answer for every text.
-/

namespace Preflight

open Text

/-- Run all rules with settings that may be unsound. -/
def analyzeWith (settings : Settings) (text : List Char) :
    Except Fault Analysis := do
  let lines := Text.lines text
  let lineIssues ← Rule.lineIssues settings lines
  let document ← Rule.documentFindings settings text
  return {
    nonEmptyLineCount := lines.countP fun line => !isBlank line
    estimatedTokenCount := document.estimatedTokenCount
    comparativeTokenCount := document.comparativeTokenCount
    keywordHitCount := document.keywordHitCount
    issues := lineIssues ++ document.issues ++ Rule.delimiterIssues text }

/-- Sound settings cause no fault. -/
theorem analyzeWith_isOk {settings : Settings}
    (sound : settings.flaw? = none) (text : List Char) :
    ∃ analysis, analyzeWith settings text = .ok analysis := by
  obtain ⟨_, indentPositive, tokenPositive, _, _⟩ :=
    (settings.flaw?_eq_none_iff).1 sound
  obtain ⟨issues, issuesFound⟩ :=
    Rule.lineIssuesFrom_isOk indentPositive 1 (Text.lines text)
  obtain ⟨findings, findingsFound⟩ :=
    Rule.documentFindings_isOk tokenPositive text
  exact ⟨_, by
    simp only [analyzeWith, Rule.lineIssues, issuesFound, findingsFound]
    rfl⟩

/-- Settings that the rules can work with. -/
structure Analyzer where
  settings : Settings
  sound : settings.flaw? = none

namespace Analyzer

def standard : Analyzer := ⟨{}, Settings.flaw?_default⟩

/-- The analyzer with these settings, or their first flaw. -/
def ofSettings (settings : Settings) : Except Settings.Flaw Analyzer :=
  match found : settings.flaw? with
  | none => .ok ⟨settings, found⟩
  | some flaw => .error flaw

def analyze (analyzer : Analyzer) (text : List Char) : Analysis :=
  match outcome : analyzeWith analyzer.settings text with
  | .ok analysis => analysis
  | .error _ =>
      absurd (analyzeWith_isOk analyzer.sound text) (by simp [outcome])

/-- An analyzer answers what the rules find with its settings. -/
theorem analyzeWith_settings (analyzer : Analyzer) (text : List Char) :
    analyzeWith analyzer.settings text = .ok (analyzer.analyze text) := by
  unfold analyze
  split
  · assumption
  · rename_i fault outcome
    exact absurd (analyzeWith_isOk analyzer.sound text) (by simp [outcome])

end Analyzer

end Preflight
