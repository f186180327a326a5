import Preflight.Analyzer
import Preflight.Proofs.Rule.Lines
import Preflight.Proofs.TokenCount

/-!
# What an analyzer finds

An analyzer reports the findings of the line rules, then those of the
document rules, then the imbalance of the delimiters.
-/

namespace Preflight

open Text

theorem Rule.documentFindings_eq_ok {settings : Settings}
    (positive : settings.charsPerToken ≠ 0) (text : List Char) :
    documentFindings settings text =
      .ok
        { issues :=
            entrypointIssues settings.entrypoint text ++ keywordIssues text
          estimatedTokenCount :=
            TokenCount.tokens text.length settings.charsPerToken
          comparativeTokenCount :=
            TokenCount.comparative
              (TokenCount.tokens text.length settings.charsPerToken)
              settings.comparativeTokenRatio
          keywordHitCount := Vocabulary.shorthand.count text } := by
  rw [documentFindings, TokenCount.estimate_eq_ok positive]
  rfl

/-- What the rules for the text as a whole report. -/
def Rule.textIssues (name : String) (text : List Char) : List Issue :=
  entrypointIssues name text ++ keywordIssues text ++ delimiterIssues text

namespace Analyzer

theorem indentWidth_ne_zero (analyzer : Analyzer) :
    analyzer.settings.indentWidth ≠ 0 :=
  (analyzer.settings.flaw?_eq_none_iff.1 analyzer.sound).2.1

theorem charsPerToken_ne_zero (analyzer : Analyzer) :
    analyzer.settings.charsPerToken ≠ 0 :=
  (analyzer.settings.flaw?_eq_none_iff.1 analyzer.sound).2.2.1

theorem entrypoint_isIdentifier (analyzer : Analyzer) :
    isIdentifier analyzer.settings.entrypoint.toList = true :=
  (analyzer.settings.flaw?_eq_none_iff.1 analyzer.sound).2.2.2.2

theorem settings_of_ofSettings {settings : Settings} {analyzer : Analyzer}
    (accepted : ofSettings settings = .ok analyzer) :
    analyzer.settings = settings := by
  unfold ofSettings at accepted
  split at accepted
  · cases accepted
    rfl
  · cases accepted

/-- The analysis of a text, rule by rule. -/
theorem analyze_eq (analyzer : Analyzer) (text : List Char) :
    analyzer.analyze text =
      { nonEmptyLineCount := (lines text).countP fun line => !isBlank line
        estimatedTokenCount :=
          TokenCount.tokens text.length analyzer.settings.charsPerToken
        comparativeTokenCount :=
          TokenCount.comparative
            (TokenCount.tokens text.length analyzer.settings.charsPerToken)
            analyzer.settings.comparativeTokenRatio
        keywordHitCount := Vocabulary.shorthand.count text
        issues :=
          (Rule.lineFindingsFrom analyzer.settings 1 (lines text)).map
              (Rule.findingIssue analyzer.settings) ++
            (Rule.entrypointIssues analyzer.settings.entrypoint text ++
              Rule.keywordIssues text) ++
            Rule.delimiterIssues text } := by
  have analyzed := analyzer.analyzeWith_settings text
  rw [analyzeWith, Rule.lineIssues,
    Rule.lineIssuesFrom_eq_ok analyzer.indentWidth_ne_zero,
    Rule.documentFindings_eq_ok analyzer.charsPerToken_ne_zero] at analyzed
  exact (Except.ok.inj analyzed).symm

theorem issues_analyze (analyzer : Analyzer) (text : List Char) :
    (analyzer.analyze text).issues =
      (Rule.lineFindingsFrom analyzer.settings 1 (lines text)).map
          (Rule.findingIssue analyzer.settings) ++
        (Rule.entrypointIssues analyzer.settings.entrypoint text ++
          Rule.keywordIssues text) ++
        Rule.delimiterIssues text := by
  rw [analyzer.analyze_eq]

theorem issues_eq_append (analyzer : Analyzer) (text : List Char) :
    (analyzer.analyze text).issues =
      (Rule.lineFindingsFrom analyzer.settings 1 (lines text)).map
          (Rule.findingIssue analyzer.settings) ++
        Rule.textIssues analyzer.settings.entrypoint text := by
  rw [analyzer.issues_analyze, Rule.textIssues, List.append_assoc]

end Analyzer

end Preflight
