import Preflight.Proofs.IssueList

/-!
# Thresholds

Every threshold belongs to one rule, and the other rules do not read it. With
another threshold an analysis keeps the issues of all other rules, in their
order, and its measures. A greater line length finds fewer long lines, and a
multiple of the step width finds more broken steps.
-/

namespace Preflight

open Text

/-! ## Rules that do not read a threshold -/

namespace LineRule

/-- A rule that does not tell two settings apart: it is broken by the same
lines and says the same about them. -/
structure Disregards (rule : LineRule) (settings other : Settings) :
    Prop where
  breaks_iff : ∀ line, rule.Breaks other line ↔ rule.Breaks settings line
  issue_eq : ∀ number, rule.issue other number = rule.issue settings number

theorem disregards_of_eq {settings other : Settings} {rule : LineRule}
    (sameWidth :
      rule = indentation → other.indentWidth = settings.indentWidth)
    (sameLength :
      rule = length → other.maxLineLength = settings.maxLineLength) :
    rule.Disregards settings other := by
  cases rule with
  | tab => exact ⟨fun _ => Iff.rfl, fun _ => rfl⟩
  | indentation =>
      constructor
      · intro line
        rw [Breaks, Breaks, sameWidth rfl]
      · intro number
        rw [issue, issue, sameWidth rfl]
  | length =>
      constructor
      · intro line
        rw [Breaks, Breaks, sameLength rfl]
      · intro number
        rfl

end LineRule

/-! ## Findings under two thresholds -/

namespace Rule

theorem filter_broken_congr {settings other : Settings}
    {kept : LineRule → Bool}
    (disregards :
      ∀ rule, kept rule = true → rule.Disregards settings other)
    (line : List Char) :
    (broken other line).filter kept = (broken settings line).filter kept := by
  rw [broken, broken, List.filter_filter, List.filter_filter]
  apply List.filter_congr
  intro rule _
  cases isKept : kept rule with
  | false => rfl
  | true => simp only [(disregards rule isKept).breaks_iff line]

/-- The findings of rules that do not tell two settings apart are the same
under both. -/
theorem filter_lineFindingsFrom_congr {settings other : Settings}
    (kept : LineRule → Bool)
    (disregards :
      ∀ rule, kept rule = true → rule.Disregards settings other)
    (number : Nat) (lines : List (List Char)) :
    (lineFindingsFrom other number lines).filter
        (fun finding => kept finding.2) =
      (lineFindingsFrom settings number lines).filter
        (fun finding => kept finding.2) := by
  induction lines generalizing number with
  | nil => rfl
  | cons line rest inductionHypothesis =>
      have sameHere := filter_broken_congr disregards line
      rw [lineFindingsFrom_cons, lineFindingsFrom_cons, List.filter_append,
        List.filter_append, inductionHypothesis, List.filter_map,
        List.filter_map]
      congr 2

/-- Findings that stay under other settings keep their order. -/
theorem lineFindingsFrom_sublist {settings other : Settings}
    (stay :
      ∀ (rule : LineRule) line,
        rule.Breaks other line → rule.Breaks settings line)
    (number : Nat) (lines : List (List Char)) :
    (lineFindingsFrom other number lines).Sublist
      (lineFindingsFrom settings number lines) := by
  induction lines generalizing number with
  | nil => exact List.Sublist.refl []
  | cons line rest inductionHypothesis =>
      have fewerHere : (broken other line).Sublist (broken settings line) := by
        apply List.monotone_filter_right
        intro rule breaks
        rw [decide_eq_true_eq] at breaks ⊢
        exact stay rule line breaks
      rw [lineFindingsFrom_cons, lineFindingsFrom_cons]
      exact (fewerHere.map _).append (inductionHypothesis (number + 1))

end Rule

/-! ## Analyses under two thresholds -/

/-- Two analyses that count the same. -/
structure Analysis.SameMeasures (analysis other : Analysis) : Prop where
  nonEmptyLineCount : other.nonEmptyLineCount = analysis.nonEmptyLineCount
  estimatedTokenCount :
    other.estimatedTokenCount = analysis.estimatedTokenCount
  comparativeTokenCount :
    other.comparativeTokenCount = analysis.comparativeTokenCount
  keywordHitCount : other.keywordHitCount = analysis.keywordHitCount

namespace Analyzer

variable {analyzer other : Analyzer} {text : List Char}

/-- The issues of a text without those of one of the rules for lines. -/
def issuesWithout (analyzer : Analyzer) (rule : LineRule)
    (text : List Char) : List Issue :=
  (analyzer.analyze text).issues.filter fun issue =>
    ¬ rule.Raises analyzer.settings issue

theorem issuesWithout_eq {rule : LineRule} :
    analyzer.issuesWithout rule text =
      ((Rule.lineFindingsFrom analyzer.settings 1 (lines text)).filter
            fun finding => finding.2 ≠ rule).map
          (Rule.findingIssue analyzer.settings) ++
        Rule.textIssues analyzer.settings.entrypoint text := by
  have othersStay :
      (Rule.textIssues analyzer.settings.entrypoint text).filter
          (fun issue => ¬ rule.Raises analyzer.settings issue) =
        Rule.textIssues analyzer.settings.entrypoint text := by
    apply List.filter_eq_self.2
    intro issue member
    simpa using Rule.not_raises_of_mem_textIssues member rule
  rw [issuesWithout, issues_eq_append, List.filter_append, othersStay,
    List.filter_map]
  congr 2
  apply List.filter_congr
  intro finding _
  simp [LineRule.raises_findingIssue_iff]

/-- Settings that only one rule for lines tells apart give the same issues but
for those of this rule. -/
theorem issuesWithout_congr {rule : LineRule}
    (sameEntrypoint :
      other.settings.entrypoint = analyzer.settings.entrypoint)
    (disregards :
      ∀ elsewhere, elsewhere ≠ rule →
        elsewhere.Disregards analyzer.settings other.settings) :
    other.issuesWithout rule text = analyzer.issuesWithout rule text := by
  have sameFindings :=
    Rule.filter_lineFindingsFrom_congr (fun elsewhere => elsewhere ≠ rule)
      (fun elsewhere kept => disregards elsewhere (by simpa using kept))
      1 (lines text)
  rw [issuesWithout_eq, issuesWithout_eq, sameEntrypoint,
    sameFindings]
  congr 1
  apply List.map_congr_left
  intro finding member
  have kept := (List.mem_filter.1 member).2
  have sameRule := disregards finding.2 (by simpa using kept)
  exact sameRule.issue_eq finding.1

theorem lineIssues_congr
    (sameWidth : other.settings.indentWidth = analyzer.settings.indentWidth)
    (sameLength :
      other.settings.maxLineLength = analyzer.settings.maxLineLength) :
    (Rule.lineFindingsFrom other.settings 1 (lines text)).map
        (Rule.findingIssue other.settings) =
      (Rule.lineFindingsFrom analyzer.settings 1 (lines text)).map
        (Rule.findingIssue analyzer.settings) := by
  have disregards :
      ∀ rule : LineRule,
        rule.Disregards analyzer.settings other.settings := by
    intro rule
    exact LineRule.disregards_of_eq (fun _ => sameWidth)
      (fun _ => sameLength)
  have sameFindings :=
    Rule.filter_lineFindingsFrom_congr (fun _ => true)
      (fun rule _ => disregards rule) 1 (lines text)
  simp only [List.filter_true] at sameFindings
  rw [sameFindings]
  apply List.map_congr_left
  intro finding _
  exact (disregards finding.2).issue_eq finding.1

/-- The measures depend on the length and the ratio of tokens only. -/
theorem sameMeasures
    (sameTokens :
      other.settings.charsPerToken = analyzer.settings.charsPerToken)
    (sameRatio :
      other.settings.comparativeTokenRatio =
        analyzer.settings.comparativeTokenRatio) :
    (analyzer.analyze text).SameMeasures (other.analyze text) := by
  rw [analyzer.analyze_eq, other.analyze_eq, sameTokens, sameRatio]
  exact ⟨rfl, rfl, rfl, rfl⟩

/-- With a greater line length fewer lines are too long. -/
theorem issues_sublist_of_le
    (longer :
      analyzer.settings.maxLineLength ≤ other.settings.maxLineLength)
    (sameWidth : other.settings.indentWidth = analyzer.settings.indentWidth)
    (sameEntrypoint :
      other.settings.entrypoint = analyzer.settings.entrypoint) :
    (other.analyze text).issues.Sublist (analyzer.analyze text).issues := by
  have fewer :
      (Rule.lineFindingsFrom other.settings 1 (lines text)).Sublist
        (Rule.lineFindingsFrom analyzer.settings 1 (lines text)) := by
    apply Rule.lineFindingsFrom_sublist
    intro rule line breaks
    cases rule with
    | tab => exact breaks
    | indentation =>
        rw [LineRule.Breaks, sameWidth] at breaks
        exact breaks
    | length => exact Nat.lt_of_le_of_lt longer breaks
  have sameIssue :
      Rule.findingIssue other.settings =
        Rule.findingIssue analyzer.settings := by
    funext finding
    obtain ⟨number, rule⟩ := finding
    cases rule with
    | tab => rfl
    | indentation =>
        simp only [Rule.findingIssue, LineRule.issue, sameWidth]
    | length => rfl
  rw [issues_eq_append, issues_eq_append, sameEntrypoint, sameIssue]
  exact (fewer.map _).append (List.Sublist.refl _)

/-- A line that breaks a step breaks every multiple of it. -/
theorem indentation_issue_of_dvd
    (wider : analyzer.settings.indentWidth ∣ other.settings.indentWidth)
    {number : Nat}
    (warned :
      LineRule.indentation.issue analyzer.settings number ∈
        (analyzer.analyze text).issues) :
    LineRule.indentation.issue other.settings number ∈
      (other.analyze text).issues := by
  have finding := mem_issues_iff_of_finding.1 warned
  obtain ⟨later, line, stands, black, broken⟩ :=
    Rule.mem_lineFindingsFrom_iff.1 finding
  have brokenToo : ¬ other.settings.indentWidth ∣ leadingSpaces line := by
    intro whole
    exact broken (wider.trans whole)
  rw [mem_issues_iff_of_finding]
  exact Rule.mem_lineFindingsFrom_iff.2
    ⟨later, line, stands, black, brokenToo⟩

/-- Only the entrypoint rule warns without a line. -/
theorem filter_ne_missingEntrypoint :
    (analyzer.analyze text).issues.filter
        (fun issue =>
          issue ≠ Rule.missingEntrypoint analyzer.settings.entrypoint) =
      (Rule.lineFindingsFrom analyzer.settings 1 (lines text)).map
          (Rule.findingIssue analyzer.settings) ++
        (Rule.keywordIssues text ++ Rule.delimiterIssues text) := by
  have missingDropped :
      (Rule.entrypointIssues analyzer.settings.entrypoint text).filter
          (fun issue =>
            issue ≠ Rule.missingEntrypoint analyzer.settings.entrypoint) =
        [] := by
    unfold Rule.entrypointIssues
    split <;> simp
  have othersStay :
      ∀ issue ∈
          (Rule.lineFindingsFrom analyzer.settings 1 (lines text)).map
              (Rule.findingIssue analyzer.settings) ++
            (Rule.keywordIssues text ++ Rule.delimiterIssues text),
        issue ≠ Rule.missingEntrypoint analyzer.settings.entrypoint := by
    rintro issue member rfl
    simp only [List.mem_append] at member
    rcases member with inLines | keyword | delimiter
    · obtain ⟨⟨number, rule⟩, _, same⟩ := List.mem_map.1 inLines
      have placed := congrArg Issue.line same
      rw [Rule.findingIssue, LineRule.line_issue] at placed
      cases placed
    · have onInformation :=
        (Rule.keywordIssues_raisesOnce text).severity_of_mem keyword
      cases onInformation
    · have severe :=
        (Rule.delimiterIssues_raisesOnce text).severity_of_mem delimiter
      cases severe
  have allStay := List.filter_eq_self.2 fun issue member =>
    decide_eq_true (othersStay issue member)
  rw [List.filter_append] at allStay
  rw [issues_eq_append, Rule.textIssues, List.append_assoc,
    List.filter_append, List.filter_append, missingDropped, List.nil_append]
  exact allStay

end Analyzer

/-- A threshold touches the findings of its own rule only. The length of a
token and the ratio of tokens change no issue. A greater line length takes away
warnings about long lines. Wider steps that are whole numbers of the narrower
ones are broken wherever these are, and all issues but those about steps stay.
Another entrypoint changes the warning about it and nothing else. But for the
length and the ratio of tokens, no threshold changes a measure. -/
theorem thresholds_touch_their_own_findings {settings : Settings}
    {analyzer : Analyzer}
    (accepted : Analyzer.ofSettings settings = .ok analyzer)
    (text : List Char) :
    (∀ charsPerToken comparativeTokenRatio other,
        Analyzer.ofSettings
            { settings with charsPerToken, comparativeTokenRatio } =
          .ok other →
        (other.analyze text).issues = (analyzer.analyze text).issues ∧
          (other.analyze text).nonEmptyLineCount =
            (analyzer.analyze text).nonEmptyLineCount ∧
          (other.analyze text).keywordHitCount =
            (analyzer.analyze text).keywordHitCount) ∧
      (∀ maxLineLength other,
        settings.maxLineLength ≤ maxLineLength →
        Analyzer.ofSettings { settings with maxLineLength } = .ok other →
        (other.analyze text).issues.Sublist (analyzer.analyze text).issues ∧
          other.issuesWithout .length text =
            analyzer.issuesWithout .length text ∧
          (analyzer.analyze text).SameMeasures (other.analyze text)) ∧
      (∀ indentWidth other,
        settings.indentWidth ∣ indentWidth →
        Analyzer.ofSettings { settings with indentWidth } = .ok other →
        (∀ number,
            LineRule.indentation.issue settings number ∈
                (analyzer.analyze text).issues →
              LineRule.indentation.issue { settings with indentWidth }
                  number ∈
                (other.analyze text).issues) ∧
          other.issuesWithout .indentation text =
            analyzer.issuesWithout .indentation text ∧
          (analyzer.analyze text).SameMeasures (other.analyze text)) ∧
      ∀ entrypoint other,
        Analyzer.ofSettings { settings with entrypoint } = .ok other →
        (other.analyze text).issues.filter
              (fun issue => issue ≠ Rule.missingEntrypoint entrypoint) =
            (analyzer.analyze text).issues.filter
              (fun issue =>
                issue ≠ Rule.missingEntrypoint settings.entrypoint) ∧
          (analyzer.analyze text).SameMeasures (other.analyze text) := by
  have sameSettings := Analyzer.settings_of_ofSettings accepted
  subst sameSettings
  refine ⟨?_, ?_, ?_, ?_⟩
  · intro charsPerToken ratio other acceptedToo
    have otherSettings := Analyzer.settings_of_ofSettings acceptedToo
    have sameWidth :
        other.settings.indentWidth = analyzer.settings.indentWidth := by
      rw [otherSettings]
    have sameLength :
        other.settings.maxLineLength = analyzer.settings.maxLineLength := by
      rw [otherSettings]
    refine ⟨?_, ?_, ?_⟩
    · rw [other.issues_eq_append, analyzer.issues_eq_append,
        Analyzer.lineIssues_congr sameWidth sameLength, otherSettings]
    · rw [other.analyze_eq, analyzer.analyze_eq]
    · rw [other.analyze_eq, analyzer.analyze_eq]
  · intro maxLineLength other longer acceptedToo
    have otherSettings := Analyzer.settings_of_ofSettings acceptedToo
    refine ⟨?_, ?_, ?_⟩
    · apply Analyzer.issues_sublist_of_le
      all_goals rw [otherSettings]
      exact longer
    · apply Analyzer.issuesWithout_congr
      · rw [otherSettings]
      · intro elsewhere notLength
        exact LineRule.disregards_of_eq (fun _ => by rw [otherSettings])
          (fun isLength => absurd isLength notLength)
    · apply Analyzer.sameMeasures <;> rw [otherSettings]
  · intro indentWidth other wider acceptedToo
    have otherSettings := Analyzer.settings_of_ofSettings acceptedToo
    refine ⟨?_, ?_, ?_⟩
    · intro number warned
      rw [← otherSettings]
      apply Analyzer.indentation_issue_of_dvd _ warned
      rw [otherSettings]
      exact wider
    · apply Analyzer.issuesWithout_congr
      · rw [otherSettings]
      · intro elsewhere notIndentation
        exact LineRule.disregards_of_eq
          (fun isIndentation => absurd isIndentation notIndentation)
          (fun _ => by rw [otherSettings])
    · apply Analyzer.sameMeasures <;> rw [otherSettings]
  · intro entrypoint other acceptedToo
    have otherSettings := Analyzer.settings_of_ofSettings acceptedToo
    have otherEntrypoint : other.settings.entrypoint = entrypoint := by
      rw [otherSettings]
    have sameWidth :
        other.settings.indentWidth = analyzer.settings.indentWidth := by
      rw [otherSettings]
    have sameLength :
        other.settings.maxLineLength = analyzer.settings.maxLineLength := by
      rw [otherSettings]
    refine ⟨?_, ?_⟩
    · rw [← otherEntrypoint, Analyzer.filter_ne_missingEntrypoint,
        Analyzer.filter_ne_missingEntrypoint,
        Analyzer.lineIssues_congr sameWidth sameLength]
    · apply Analyzer.sameMeasures <;> rw [otherSettings]

/-- Three spaces break steps of two and of four, and two spaces only the
latter. The line of four characters is too long for a limit of three. -/
theorem thresholds_touch_their_own_findings_three_spaces :
    ∃ narrow,
      Analyzer.ofSettings { indentWidth := 2, maxLineLength := 3 } =
          .ok narrow ∧
        LineRule.indentation.issue { indentWidth := 2 } 1 ∈
          (narrow.analyze "   x\n  y".toList).issues ∧
        (∃ wide,
          Analyzer.ofSettings { indentWidth := 4, maxLineLength := 3 } =
              .ok wide ∧
            LineRule.indentation.issue { indentWidth := 4 } 1 ∈
              (wide.analyze "   x\n  y".toList).issues ∧
            wide.issuesWithout .indentation "   x\n  y".toList =
              narrow.issuesWithout .indentation "   x\n  y".toList) ∧
        ∃ long,
          Analyzer.ofSettings { indentWidth := 2, maxLineLength := 4 } =
              .ok long ∧
            (long.analyze "   x\n  y".toList).issues.Sublist
              (narrow.analyze "   x\n  y".toList).issues ∧
            (long.analyze "   x\n  y".toList).issues ≠
              (narrow.analyze "   x\n  y".toList).issues := by
  have accepted :
      Analyzer.ofSettings { indentWidth := 2, maxLineLength := 3 } =
        .ok ⟨{ indentWidth := 2, maxLineLength := 3 }, by decide⟩ := rfl
  obtain ⟨_, byLength, byWidth, _⟩ :=
    thresholds_touch_their_own_findings accepted "   x\n  y".toList
  obtain ⟨warnedToo, sameElsewhere, _⟩ :=
    byWidth 4 ⟨{ indentWidth := 4, maxLineLength := 3 }, by decide⟩
      (by decide) rfl
  obtain ⟨fewer, _, _⟩ :=
    byLength 4 ⟨{ indentWidth := 2, maxLineLength := 4 }, by decide⟩
      (by decide) rfl
  exact ⟨_, accepted, by decide, ⟨_, rfl, warnedToo 1 (by decide),
    sameElsewhere⟩, _, rfl, fewer, by decide⟩

end Preflight
