import Preflight.Proofs.Analyzer
import Preflight.Proofs.Delimiter.Nesting
import Preflight.Proofs.Entrypoint
import Preflight.Proofs.Report
import Preflight.Proofs.Text.Line
import Preflight.Report

/-!
# The verdict on a text

A report is favourable for the texts with tidy lines, a declared entrypoint
and nested delimiters, and for no others. Each rule contributes the texts for
which it raises nothing but information, and each contribution is told by the
shape of the text alone.
-/

namespace Preflight

open Text

/-- A tidy line has no tab, is not too long, and is blank or indented in whole
steps. -/
structure IsTidy (settings : Settings) (line : List Char) : Prop where
  noTab : '\t' ∉ line
  fits : line.length ≤ settings.maxLineLength
  indented :
    (∀ c ∈ line, isSpace c = true) ∨
      ∃ width rest,
        line = List.replicate width ' ' ++ rest ∧
          rest.head? ≠ some ' ' ∧ settings.indentWidth ∣ width

/-! ## One contribution for each rule -/

theorem isTidy_iff {settings : Settings} {line : List Char} :
    IsTidy settings line ↔
      ∀ rule : LineRule, ¬ rule.Breaks settings line := by
  have blank_iff : isBlank line = true ↔ ∀ c ∈ line, isSpace c = true :=
    List.all_eq_true
  constructor
  · rintro ⟨noTab, fits, indented⟩ rule
    cases rule with
    | tab => exact noTab
    | length => exact Nat.not_lt_of_le fits
    | indentation =>
        rintro ⟨notBlank, misindented⟩
        rcases indented with blank | ⟨width, rest, rfl, other, steps⟩
        · rw [blank_iff.2 blank] at notBlank
          cases notBlank
        · rw [leadingSpaces_replicate_append other] at misindented
          exact misindented steps
  · intro breaksNone
    have indented := breaksNone .indentation
    refine ⟨breaksNone .tab, Nat.le_of_not_lt (breaksNone .length), ?_⟩
    cases blank : isBlank line with
    | true => exact Or.inl (blank_iff.1 blank)
    | false =>
        obtain ⟨rest, shape, other⟩ := eq_leadingSpaces_append line
        have steps : settings.indentWidth ∣ leadingSpaces line :=
          Decidable.not_not.1 fun misindented =>
            indented ⟨blank, misindented⟩
        exact Or.inr ⟨leadingSpaces line, rest, shape, other, steps⟩

namespace Rule

theorem severity_findingIssue_ne_info (settings : Settings)
    (finding : Nat × LineRule) :
    (findingIssue settings finding).severity ≠ .info := by
  obtain ⟨number, rule⟩ := finding
  cases rule <;> simp [findingIssue, LineRule.issue]

/-- The line rules inform of nothing: tidy lines raise no issue. -/
theorem lineFindings_inform_iff {settings : Settings}
    {lines : List (List Char)} :
    (∀ issue ∈ (lineFindingsFrom settings 1 lines).map
        (findingIssue settings), issue.severity = .info) ↔
      ∀ line ∈ lines, IsTidy settings line := by
  simp only [isTidy_iff, ← lineFindingsFrom_eq_nil_iff 1]
  constructor
  · intro informs
    rw [List.eq_nil_iff_forall_not_mem]
    intro finding member
    exact severity_findingIssue_ne_info settings finding
      (informs _ (List.mem_map_of_mem member))
  · intro none
    simp [none]

theorem entrypointIssues_inform_iff {name : String} {text : List Char} :
    (∀ issue ∈ entrypointIssues name text, issue.severity = .info) ↔
      Entrypoint.Declares name.toList text := by
  rw [← Entrypoint.isDeclared_iff]
  unfold entrypointIssues
  cases Entrypoint.isDeclared name.toList text <;> simp [missingEntrypoint]

theorem keywordIssues_inform {text : List Char} {issue : Issue}
    (member : issue ∈ keywordIssues text) : issue.severity = .info := by
  unfold keywordIssues at member
  split at member
  · rw [List.mem_singleton.1 member]
    rfl
  · cases member

theorem delimiterIssues_inform_iff {text : List Char} :
    (∀ issue ∈ delimiterIssues text, issue.severity = .info) ↔
      Delimiter.Nested text := by
  rw [← Delimiter.readAll_eq_ok_iff_nested,
    ← Delimiter.scan_eq_none_iff_readAll]
  unfold delimiterIssues
  cases Delimiter.scan text <;> simp [Imbalance.issue]

end Rule

/-! ## All rules together -/

/-- The report on a text is favourable exactly when its lines are tidy, the
entrypoint is declared and the delimiters nest. The keyword issue changes
nothing about the report, and a favourable report repeats the measures of the
analysis. -/
theorem report_isOk_iff_tidy_declared_nested {settings : Settings}
    {analyzer : Analyzer}
    (accepted : Analyzer.ofSettings settings = .ok analyzer)
    (text : List Char) :
    ((Report.ofAnalysis (analyzer.analyze text)).isOk = true ↔
        (∀ line ∈ lines text, IsTidy settings line) ∧
          Entrypoint.Declares settings.entrypoint.toList text ∧
          Delimiter.Nested text) ∧
      Report.ofAnalysis
          { analyzer.analyze text with
            issues :=
              (analyzer.analyze text).issues.filter
                (· ≠ Rule.longformKeywords) } =
        Report.ofAnalysis (analyzer.analyze text) ∧
      ∀ message metrics nextStep,
        Report.ofAnalysis (analyzer.analyze text) =
            .ok message metrics nextStep →
          metrics =
            { estimatedTokenCount :=
                (analyzer.analyze text).estimatedTokenCount
              comparativeTokenCount :=
                (analyzer.analyze text).comparativeTokenCount
              keywordHitCount := (analyzer.analyze text).keywordHitCount
              nonEmptyLineCount :=
                (analyzer.analyze text).nonEmptyLineCount } := by
  have sameSettings := Analyzer.settings_of_ofSettings accepted
  refine ⟨?_, ?_, ?_⟩
  · rw [Report.isOk_ofAnalysis_iff, analyzer.issues_analyze,
      sameSettings]
    simp only [List.forall_mem_append, Rule.lineFindings_inform_iff,
      Rule.entrypointIssues_inform_iff, Rule.delimiterIssues_inform_iff]
    constructor
    · rintro ⟨⟨tidy, declared, _⟩, nested⟩
      exact ⟨tidy, declared, nested⟩
    · rintro ⟨tidy, declared, nested⟩
      exact ⟨⟨tidy, declared, fun _ => Rule.keywordIssues_inform⟩, nested⟩
  · refine Report.ofAnalysis_filter fun issue _ notInfo => ?_
    have other : issue ≠ Rule.longformKeywords := by
      rintro rfl
      exact notInfo rfl
    simpa using other
  · intro message metrics nextStep favourable
    exact Report.metrics_of_ofAnalysis_eq_ok favourable

/-- Two lines with a long-form keyword and nothing to object to. -/
theorem report_isOk_iff_tidy_declared_nested_longform :
    Analyzer.ofSettings {} = .ok .standard ∧
      0 < Vocabulary.longform.count "f main(\n    [fn])".toList ∧
      (Report.ofAnalysis
        (Analyzer.standard.analyze "f main(\n    [fn])".toList)).isOk =
          true := by
  have accepted : Analyzer.ofSettings {} = .ok .standard := rfl
  have tidy : ∀ line ∈ lines "f main(\n    [fn])".toList,
      IsTidy {} line := by
    intro line member
    rw [isTidy_iff]
    intro rule
    revert line
    cases rule <;> decide
  have declared :
      Entrypoint.Declares "main".toList "f main(\n    [fn])".toList := by
    refine ⟨[], [' '], [], "\n    [fn])".toList, rfl, ?_⟩
    simp [isSpace, spaceRanges]
  have nested : Delimiter.Nested "f main(\n    [fn])".toList :=
    Delimiter.readAll_eq_ok_iff_nested.1 rfl
  refine ⟨accepted, by decide, ?_⟩
  exact (report_isOk_iff_tidy_declared_nested accepted _).1.2
    ⟨tidy, declared, nested⟩

end Preflight
