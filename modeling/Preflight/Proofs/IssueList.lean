import Preflight.Proofs.Analyzer
import Preflight.Proofs.Delimiter.Place
import Preflight.Proofs.Entrypoint
import Preflight.Proofs.Report
import Preflight.Proofs.Rule.Findings

/-!
# The issues of an analysis

The list of issues is determined by the text: the findings of the line rules
in their order, then at most one issue of each of the other rules. Every line
that an issue or a report names is a line of the text.
-/

namespace Preflight

open Text

/-- A rule for the whole text raises one issue, of this severity and line,
when its condition holds, and no issue otherwise. -/
structure RaisesOnceWhen (condition : Prop) (severity : Severity)
    (line : Option Nat) (issues : List Issue) : Prop where
  raised :
    condition →
      ∃ issue,
        issues = [issue] ∧ issue.severity = severity ∧ issue.line = line
  silent : ¬ condition → issues = []

theorem RaisesOnceWhen.line_of_mem {condition : Prop} {severity : Severity}
    {line : Option Nat} {issues : List Issue} {issue : Issue}
    (raises : RaisesOnceWhen condition severity line issues)
    (member : issue ∈ issues) : issue.line = line := by
  by_cases holds : condition
  · obtain ⟨only, rfl, _, sameLine⟩ := raises.raised holds
    rw [List.mem_singleton.1 member, sameLine]
  · rw [raises.silent holds] at member
    cases member

theorem RaisesOnceWhen.severity_of_mem {condition : Prop}
    {severity : Severity} {line : Option Nat} {issues : List Issue}
    {issue : Issue}
    (raises : RaisesOnceWhen condition severity line issues)
    (member : issue ∈ issues) : issue.severity = severity := by
  by_cases holds : condition
  · obtain ⟨only, rfl, sameSeverity, _⟩ := raises.raised holds
    rw [List.mem_singleton.1 member, sameSeverity]
  · rw [raises.silent holds] at member
    cases member

namespace Rule

theorem entrypointIssues_raisesOnce (name : String) (text : List Char) :
    RaisesOnceWhen (¬ Entrypoint.Declares name.toList text) .warn none
      (entrypointIssues name text) := by
  rw [← Entrypoint.isDeclared_iff]
  unfold entrypointIssues
  constructor
  · intro undeclared
    rw [if_neg undeclared]
    exact ⟨missingEntrypoint name, rfl, rfl, rfl⟩
  · intro declared
    rw [if_pos (Decidable.not_not.1 declared)]

theorem keywordIssues_raisesOnce (text : List Char) :
    RaisesOnceWhen (0 < Vocabulary.longform.count text) .info none
      (keywordIssues text) := by
  unfold keywordIssues
  constructor
  · intro used
    rw [if_pos used]
    exact ⟨longformKeywords, rfl, rfl, rfl⟩
  · intro unused
    rw [if_neg unused]

theorem delimiterIssues_raisesOnce (text : List Char) :
    RaisesOnceWhen (Delimiter.scan text ≠ none) .error
      ((Delimiter.scan text).map fun imbalance => imbalance.position.line)
      (delimiterIssues text) := by
  unfold delimiterIssues
  cases Delimiter.scan text with
  | none => exact ⟨fun unbalanced => absurd rfl unbalanced, fun _ => rfl⟩
  | some imbalance =>
      refine ⟨fun _ => ⟨imbalance.issue, rfl, rfl, rfl⟩, fun balanced => ?_⟩
      simp at balanced

/-- The messages about delimiters and about lines begin with different
letters. -/
theorem not_raises_issue (settings : Settings) (imbalance : Imbalance)
    (rule : LineRule) : ¬ rule.Raises settings imbalance.issue := by
  rintro ⟨number, same⟩
  have sameStart :=
    congrArg (fun issue => issue.message.toList.head?) same
  obtain ⟨kind, character, position⟩ := imbalance
  cases kind <;> cases rule <;>
    simp [Imbalance.issue, Imbalance.message, LineRule.issue] at sameStart

/-- What a rule for the text as a whole says, no rule for lines says. -/
theorem not_raises_of_mem_textIssues {settings : Settings} {name : String}
    {text : List Char} {issue : Issue}
    (member : issue ∈ textIssues name text) (rule : LineRule) :
    ¬ rule.Raises settings issue := by
  simp only [textIssues, List.mem_append] at member
  rcases member with (declaration | keyword) | delimiter
  · apply LineRule.not_raises_of_line_eq_none
    exact (entrypointIssues_raisesOnce name text).line_of_mem declaration
  · apply LineRule.not_raises_of_line_eq_none
    exact (keywordIssues_raisesOnce text).line_of_mem keyword
  · obtain ⟨imbalance, _, rfl⟩ := List.mem_map.1 delimiter
    exact not_raises_issue settings imbalance rule

end Rule

/-! ## Lines of issues -/

namespace Rule

theorem mem_findings_iff {settings : Settings} {text : List Char}
    {number : Nat} {rule : LineRule} :
    (number, rule) ∈ lineFindingsFrom settings 1 (lines text) ↔
      1 ≤ number ∧ number ≤ (lines text).length ∧
        ∃ line,
          (lines text)[number - 1]? = some line ∧
            rule.Breaks settings line := by
  rw [mem_lineFindingsFrom_iff]
  constructor
  · intro finding
    obtain ⟨positive, line, stands, breaks⟩ := finding
    obtain ⟨inside, _⟩ := List.getElem?_eq_some_iff.1 stands
    exact ⟨positive, by omega, line, stands, breaks⟩
  · intro finding
    obtain ⟨positive, _, found⟩ := finding
    exact ⟨positive, found⟩

theorem line_of_delimiterIssue {text : List Char} {issue : Issue}
    {number : Nat} (member : issue ∈ delimiterIssues text)
    (carried : issue.line = some number) :
    1 ≤ number ∧ number ≤ (lines text).length := by
  have sameLine := (delimiterIssues_raisesOnce text).line_of_mem member
  rw [carried] at sameLine
  obtain ⟨imbalance, reported, rfl⟩ :=
    Option.map_eq_some_iff.1 sameLine.symm
  obtain ⟨above, left, right, below, cut, placed⟩ :=
    Delimiter.exists_lines_of_reported reported
  rw [cut, placed]
  simp

end Rule

namespace Analyzer

variable {analyzer : Analyzer} {text : List Char}

/-- What a rule for lines says is in the list when the rule found it. -/
theorem mem_issues_iff_of_finding {number : Nat} {rule : LineRule} :
    rule.issue analyzer.settings number ∈ (analyzer.analyze text).issues ↔
      (number, rule) ∈
        Rule.lineFindingsFrom analyzer.settings 1 (lines text) := by
  rw [issues_eq_append, List.mem_append]
  constructor
  · rintro (inLines | inText)
    · obtain ⟨finding, found, same⟩ := List.mem_map.1 inLines
      have sameFinding : finding = (number, rule) :=
        Rule.findingIssue_injective analyzer.settings same
      rwa [← sameFinding]
    · exact absurd ⟨number, rfl⟩
        (Rule.not_raises_of_mem_textIssues inText rule)
  · intro found
    exact Or.inl (List.mem_map_of_mem found)

/-- What no rule for lines says is in the list when another rule says it. -/
theorem mem_issues_iff_of_not_raises {issue : Issue}
    (notRaised :
      ∀ rule : LineRule, ¬ rule.Raises analyzer.settings issue) :
    issue ∈ (analyzer.analyze text).issues ↔
      issue ∈ Rule.textIssues analyzer.settings.entrypoint text := by
  rw [issues_eq_append, List.mem_append]
  constructor
  · rintro (inLines | inText)
    · obtain ⟨finding, _, rfl⟩ := List.mem_map.1 inLines
      exact absurd (LineRule.raises_findingIssue_iff.2 rfl)
        (notRaised finding.2)
    · exact inText
  · exact Or.inr

end Analyzer

/-- The line of an issue is one of the lines of the text. -/
theorem Analyzer.line_of_issue {analyzer : Analyzer} {text : List Char}
    {issue : Issue} {number : Nat}
    (member : issue ∈ (analyzer.analyze text).issues)
    (carried : issue.line = some number) :
    1 ≤ number ∧ number ≤ (lines text).length := by
  simp only [analyzer.issues_analyze, List.mem_append, List.mem_map] at member
  rcases member with (⟨⟨found, rule⟩, finding, rfl⟩ | declaration | keyword) |
    delimiter
  · have sameNumber : found = number := by
      cases rule <;> exact Option.some.inj carried
    obtain ⟨positive, inside, _⟩ := Rule.mem_findings_iff.1 finding
    exact ⟨sameNumber ▸ positive, sameNumber ▸ inside⟩
  · have noLine :=
      (Rule.entrypointIssues_raisesOnce _ text).line_of_mem declaration
    rw [carried] at noLine
    cases noLine
  · have noLine := (Rule.keywordIssues_raisesOnce text).line_of_mem keyword
    rw [carried] at noLine
    cases noLine
  · exact Rule.line_of_delimiterIssue delimiter carried

/-! ## The list as a whole -/

/-- The issues of an analysis are the findings of the line rules in their
order, each broken rule of each line once, then a warning when the entrypoint
is not declared, then an information when long-form keywords are used, then an
error at the line of the imbalance when there is one. All lines that issues
and the report name are lines of the text. -/
theorem issues_are_findings_in_order {settings : Settings}
    {analyzer : Analyzer}
    (accepted : Analyzer.ofSettings settings = .ok analyzer)
    (text : List Char) :
    (∃ (findings : List (Nat × LineRule))
        (declaration keywords delimiters : List Issue),
        (analyzer.analyze text).issues =
            findings.map (Rule.findingIssue settings) ++ declaration ++
              keywords ++ delimiters ∧
          findings.Pairwise Rule.Precedes ∧
          (∀ number rule,
            (number, rule) ∈ findings ↔
              1 ≤ number ∧ number ≤ (lines text).length ∧
                ∃ line,
                  (lines text)[number - 1]? = some line ∧
                    rule.Breaks settings line) ∧
          RaisesOnceWhen
            (¬ Entrypoint.Declares settings.entrypoint.toList text)
            .warn none declaration ∧
          RaisesOnceWhen (0 < Vocabulary.longform.count text)
            .info none keywords ∧
          RaisesOnceWhen (Delimiter.scan text ≠ none) .error
            ((Delimiter.scan text).map fun imbalance =>
              imbalance.position.line) delimiters) ∧
      Function.Injective (Rule.findingIssue settings) ∧
      (∀ issue ∈ (analyzer.analyze text).issues,
        ∀ number, issue.line = some number →
          1 ≤ number ∧ number ≤ (lines text).length) ∧
      ∀ kind message location suggestion,
        Report.ofAnalysis (analyzer.analyze text) =
            .needsAttention kind message location suggestion →
          1 ≤ location.line ∧ location.line ≤ (lines text).length := by
  have sameSettings := Analyzer.settings_of_ofSettings accepted
  refine ⟨?_, Rule.findingIssue_injective settings, ?_, ?_⟩
  · refine ⟨Rule.lineFindingsFrom settings 1 (lines text),
      Rule.entrypointIssues settings.entrypoint text,
      Rule.keywordIssues text, Rule.delimiterIssues text, ?_,
      Rule.pairwise_precedes_lineFindingsFrom settings 1 (lines text),
      fun number rule => Rule.mem_findings_iff,
      Rule.entrypointIssues_raisesOnce settings.entrypoint text,
      Rule.keywordIssues_raisesOnce text,
      Rule.delimiterIssues_raisesOnce text⟩
    rw [analyzer.issues_analyze, sameSettings]
    simp only [List.append_assoc]
  · intro issue member number carried
    exact Analyzer.line_of_issue member carried
  · intro kind message location suggestion unfavourable
    obtain ⟨issue, member, sameLine⟩ :=
      Report.exists_issue_of_needsAttention unfavourable
    rw [sameLine]
    cases carried : issue.line with
    | none =>
        -- The report then names line 1, and every text has one.
        have someLine := length_lines text
        simp only [Option.getD_none]
        omega
    | some number => exact Analyzer.line_of_issue member carried

/-- Two findings in the first of three lines and an opener in the last. -/
theorem issues_are_findings_in_order_three_lines :
    Analyzer.ofSettings {} = .ok .standard ∧
      Rule.findingIssue {} (1, .indentation) ∈
        (Analyzer.standard.analyze "  \tx\n\nfn (".toList).issues ∧
      ∀ issue ∈ (Analyzer.standard.analyze "  \tx\n\nfn (".toList).issues,
        ∀ number, issue.line = some number → 1 ≤ number ∧ number ≤ 3 := by
  have accepted : Analyzer.ofSettings {} = .ok .standard := rfl
  obtain ⟨⟨findings, declaration, keywords, delimiters, shape, _, found, _⟩,
    _, linesInRange, _⟩ :=
      issues_are_findings_in_order accepted "  \tx\n\nfn (".toList
  have misindented : (1, LineRule.indentation) ∈ findings :=
    (found 1 .indentation).2
      ⟨by decide, by decide, "  \tx".toList, by decide, by decide⟩
  refine ⟨accepted, ?_, linesInRange⟩
  rw [shape]
  simp only [List.mem_append]
  exact Or.inl (Or.inl (Or.inl (List.mem_map_of_mem misindented)))

end Preflight
