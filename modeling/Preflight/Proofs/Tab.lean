import Preflight.Proofs.Delimiter.Corresponding
import Preflight.Proofs.Delimiter.Nesting
import Preflight.Proofs.IssueList
import Preflight.Proofs.Respacing
import Preflight.Proofs.Text.Line

/-!
# Tabs replaced by spaces

A text whose tabs are replaced by spaces has no tab left, and the lines of the
text are replaced one by one. The rules for the text as a whole find the same:
words and gaps do not see which white space stands between them, and the scan
for delimiters counts other columns but the same lines.
-/

namespace Preflight

open Text

namespace Text

/-- The text with so many spaces in place of every tab. -/
def withSpaces (width : Nat) (text : List Char) : List Char :=
  text.flatMap fun c => if c = '\t' then List.replicate width ' ' else [c]

theorem withSpaces_tab (width : Nat) (rest : List Char) :
    withSpaces width ('\t' :: rest) =
      List.replicate width ' ' ++ withSpaces width rest :=
  rfl

theorem withSpaces_cons {c : Char} (noTab : c ≠ '\t') (width : Nat)
    (rest : List Char) :
    withSpaces width (c :: rest) = c :: withSpaces width rest := by
  rw [withSpaces, List.flatMap_cons, if_neg noTab]
  rfl

theorem withSpaces_append (width : Nat) (first second : List Char) :
    withSpaces width (first ++ second) =
      withSpaces width first ++ withSpaces width second :=
  List.flatMap_append

/-- Nothing but spaces is put in, and no tab stays. -/
theorem mem_of_mem_withSpaces {width : Nat} {text : List Char} {c : Char}
    (member : c ∈ withSpaces width text) :
    c = ' ' ∨ c ∈ text ∧ c ≠ '\t' := by
  obtain ⟨source, inText, inSpread⟩ := List.mem_flatMap.1 member
  by_cases tab : source = '\t'
  · rw [if_pos tab] at inSpread
    exact Or.inl (List.eq_of_mem_replicate inSpread)
  · rw [if_neg tab] at inSpread
    rw [List.mem_singleton.1 inSpread]
    exact Or.inr ⟨inText, tab⟩

theorem tab_not_mem_withSpaces (width : Nat) (text : List Char) :
    '\t' ∉ withSpaces width text := by
  intro member
  rcases mem_of_mem_withSpaces member with isSpace | ⟨_, noTab⟩
  · revert isSpace
    decide
  · exact noTab rfl

theorem return_not_mem_withSpaces (width : Nat) {text : List Char}
    (noReturn : '\r' ∉ text) : '\r' ∉ withSpaces width text := by
  intro member
  rcases mem_of_mem_withSpaces member with isSpace | ⟨inText, _⟩
  · revert isSpace
    decide
  · exact noReturn inText

/-! ## Lines -/

theorem feed_not_mem_replicate (width : Nat) :
    '\n' ∉ List.replicate width ' ' := by
  intro member
  have isSpace := List.eq_of_mem_replicate member
  revert isSpace
  decide

theorem splitFeeds_withSpaces (width : Nat) (text : List Char) :
    splitFeeds (withSpaces width text) =
      (splitFeeds text).map (withSpaces width) := by
  induction text with
  | nil => rfl
  | cons c rest inductionHypothesis =>
      obtain ⟨piece, pieces, split⟩ :=
        List.exists_cons_of_ne_nil (splitFeeds_ne_nil rest)
      rw [split, List.map_cons] at inductionHypothesis
      by_cases tab : c = '\t'
      · subst tab
        have blockSplit :
            splitFeeds (List.replicate width ' ') =
              [] ++ [List.replicate width ' '] :=
          splitFeeds_of_not_mem (feed_not_mem_replicate width)
        rw [withSpaces_tab, splitFeeds_append blockSplit inductionHypothesis,
          splitFeeds_cons_of_ne (by decide) split]
        rfl
      · rw [withSpaces_cons tab]
        by_cases feed : c = '\n'
        · subst feed
          rw [splitFeeds_feed, splitFeeds_feed, inductionHypothesis, split]
          rfl
        · rw [splitFeeds_cons_of_ne feed inductionHypothesis,
            splitFeeds_cons_of_ne feed split, List.map_cons,
            withSpaces_cons tab]

/-- Only the last character of a piece can be dropped, and what it is replaced
by is dropped with it. -/
theorem dropReturn_withSpaces {width : Nat} (positive : 0 < width)
    (piece : List Char) :
    dropReturn (withSpaces width piece) =
      withSpaces width (dropReturn piece) := by
  rcases List.eq_nil_or_concat piece with rfl | ⟨front, last, rfl⟩
  · rfl
  · have lastKept : withSpaces width [last] ≠ [] := by
      by_cases tab : last = '\t'
      · subst tab
        rw [withSpaces_tab]
        exact List.append_ne_nil_of_left_ne_nil (by simpa using positive.ne') _
      · rw [withSpaces_cons tab]
        exact List.cons_ne_nil last _
    have lastDropped :
        dropReturn (withSpaces width [last]) =
          withSpaces width (dropReturn [last]) := by
      by_cases isReturn : last = '\r'
      · subst isReturn
        rfl
      · have noReturn : '\r' ∉ [last] := by simpa using Ne.symm isReturn
        rw [dropReturn_of_not_mem noReturn, dropReturn_of_not_mem]
        exact return_not_mem_withSpaces width noReturn
    rw [List.concat_eq_append, withSpaces_append,
      dropReturn_append lastKept, lastDropped, ← withSpaces_append,
      ← dropReturn_append (List.cons_ne_nil last [])]

theorem lines_withSpaces {width : Nat} (positive : 0 < width)
    (text : List Char) :
    lines (withSpaces width text) = (lines text).map (withSpaces width) := by
  rw [lines, splitFeeds_withSpaces, lines, List.map_map, List.map_map]
  apply List.map_congr_left
  intro piece _
  exact dropReturn_withSpaces positive piece

end Text

/-! ## Words -/

/-- Spaces in place of tabs are a way to respace. -/
def Respacing.spaces (width : Nat) (positive : 0 < width) : Respacing where
  spread c := if c = '\t' then List.replicate width ' ' else [c]
  spread_other := by
    intro c black
    have notTab : c ≠ '\t' := by
      rintro rfl
      cases black
    rw [if_neg notTab]
  spread_ne_nil := by
    intro c
    split
    · simpa using positive.ne'
    · exact List.cons_ne_nil c []
  isSpace_of_mem_spread := by
    intro c white d member
    split at member
    · rw [List.eq_of_mem_replicate member]
      decide
    · rwa [List.mem_singleton.1 member]

theorem isBlank_withSpaces {width : Nat} (positive : 0 < width)
    (line : List Char) : isBlank (withSpaces width line) = isBlank line :=
  (Respacing.spaces width positive).isBlank_apply line

/-! ## Delimiters -/

namespace Pending

/-- Two places on one line. -/
def SameLine (place other : Position) : Prop :=
  other.line = place.line

theorem SameLine.next {place other : Position} (same : SameLine place other)
    (c : Char) : SameLine (place.next c) (other.next c) := by
  unfold SameLine at same ⊢
  by_cases feed : c = '\n'
  · simp only [Position.next, if_pos feed, same]
  · simp only [Position.next, if_neg feed, same]

theorem line_after_replicate (place : Position) (width : Nat) :
    (place.after (List.replicate width ' ')).line = place.line := by
  induction width generalizing place with
  | zero => rfl
  | succ width inductionHypothesis =>
      rw [List.replicate_succ, Position.after_cons, inductionHypothesis]
      rfl

theorem nested_replicate (width : Nat) :
    Delimiter.Nested (List.replicate width ' ') := by
  induction width with
  | zero => exact .empty
  | succ width inductionHypothesis =>
      exact .neutral (by decide) inductionHypothesis

/-- Two scans on one line, of a text and of this text with spaces in place of
its tabs, take the same steps and stay on one line. -/
theorem readAll_withSpaces (pending other : Pending) (width : Nat)
    (text : List Char)
    (waits : List.Forall₂ (Frame.Corresponds SameLine)
      pending.waiting other.waiting)
    (sameLine : SameLine pending.place other.place) :
    OutcomesCorrespond SameLine (pending.readAll text)
      (other.readAll (withSpaces width text)) := by
  induction text generalizing pending other with
  | nil => exact .readOn waits
  | cons c rest inductionHypothesis =>
      by_cases tab : c = '\t'
      · subst tab
        have tabNeutral : '\t' ∉ Delimiter.characters := by decide
        have spacesRead := (nested_replicate width).readAll other
        rw [withSpaces_tab, readAll_append spacesRead,
          readAll_cons_of_read (read_neutral pending tabNeutral)]
        refine inductionHypothesis ⟨pending.waiting, _⟩ ⟨other.waiting, _⟩
          waits ?_
        exact (line_after_replicate other.place width).trans sameLine
      · rw [withSpaces_cons tab]
        apply readAll_cons_corresponds
          (read_corresponds waits (sameLine.next c))
        intro next otherNext read readToo nextWaits
        apply inductionHypothesis next otherNext nextWaits
        rw [(read_eq_ok_iff.1 read).place_eq,
          (read_eq_ok_iff.1 readToo).place_eq]
        exact sameLine.next c

end Pending

theorem Imbalance.issue_eq_of_sameLine {imbalance other : Imbalance}
    (same : imbalance.Corresponds Pending.SameLine other) :
    other.issue = imbalance.issue := by
  obtain ⟨kind, character, position⟩ := imbalance
  obtain ⟨otherKind, otherCharacter, otherPosition⟩ := other
  obtain ⟨rfl, rfl, sameLine⟩ := same
  simp only [issue, message, suggestion, Issue.mk.injEq, true_and, and_true,
    Option.some.injEq]
  exact sameLine

namespace Rule

theorem delimiterIssues_eq_nil_iff {text : List Char} :
    delimiterIssues text = [] ↔ Delimiter.scan text = none := by
  rw [delimiterIssues, List.map_eq_nil_iff, Option.toList_eq_nil_iff]

theorem delimiterIssues_withSpaces (width : Nat) (text : List Char) :
    delimiterIssues (withSpaces width text) = delimiterIssues text := by
  have run :=
    Pending.readAll_withSpaces .start .start width text .nil rfl
  have sameScan := Delimiter.scan_corresponds run
  unfold delimiterIssues
  generalize Delimiter.scan text = found at sameScan
  generalize Delimiter.scan (withSpaces width text) = otherFound at sameScan
  cases sameScan with
  | some same =>
      simp only [Option.toList_some, List.map_cons, List.map_nil,
        Imbalance.issue_eq_of_sameLine same]
  | none => rfl

/-- The rules for the text as a whole say the same. -/
theorem textIssues_withSpaces {name : String}
    (identifier : isIdentifier name.toList = true) {width : Nat}
    (positive : 0 < width) (text : List Char) :
    textIssues name (withSpaces width text) = textIssues name text := by
  have sameDeclaration :
      Entrypoint.isDeclared name.toList (withSpaces width text) =
        Entrypoint.isDeclared name.toList text :=
    (Respacing.spaces width positive).isDeclared_apply identifier text
  have sameKeywords :
      Vocabulary.longform.count (withSpaces width text) =
        Vocabulary.longform.count text :=
    (Respacing.spaces width positive).count_apply .longform text
  rw [textIssues, entrypointIssues, sameDeclaration, keywordIssues,
    sameKeywords, delimiterIssues_withSpaces, textIssues, entrypointIssues,
    keywordIssues]

end Rule

/-! ## The analysis -/

namespace Analyzer

variable {analyzer : Analyzer} {text : List Char}

/-- Errors are tabs in lines and delimiters that do not nest. -/
theorem hasErrors_analyze_iff :
    (analyzer.analyze text).hasErrors = true ↔
      (∃ line ∈ lines text, '\t' ∈ line) ∨ Delimiter.scan text ≠ none := by
  rw [Analysis.hasErrors, List.any_eq_true]
  constructor
  · rintro ⟨issue, member, isError⟩
    have severe : issue.severity = .error := of_decide_eq_true isError
    rw [issues_eq_append] at member
    rcases List.mem_append.1 member with inLines | inText
    · obtain ⟨⟨number, rule⟩, finding, rfl⟩ := List.mem_map.1 inLines
      obtain ⟨_, line, stands, breaks⟩ :=
        Rule.mem_lineFindingsFrom_iff.1 finding
      cases rule with
      | tab => exact Or.inl ⟨line, List.mem_of_getElem? stands, breaks⟩
      | indentation => cases severe
      | length => cases severe
    · simp only [Rule.textIssues, List.mem_append] at inText
      rcases inText with (declaration | keyword) | delimiter
      · have onWarning :=
          (Rule.entrypointIssues_raisesOnce _ text).severity_of_mem
            declaration
        rw [severe] at onWarning
        cases onWarning
      · have onInformation :=
          (Rule.keywordIssues_raisesOnce text).severity_of_mem keyword
        rw [severe] at onInformation
        cases onInformation
      · refine Or.inr fun balanced => ?_
        rw [Rule.delimiterIssues, balanced] at delimiter
        cases delimiter
  · rintro (⟨line, isLine, tab⟩ | unbalanced)
    · obtain ⟨index, stands⟩ := List.mem_iff_getElem?.1 isLine
      have finding :
          (index + 1, LineRule.tab) ∈
            Rule.lineFindingsFrom analyzer.settings 1 (lines text) :=
        Rule.mem_lineFindingsFrom_iff.2
          ⟨Nat.le_add_left 1 index, line, stands, tab⟩
      exact ⟨_, mem_issues_iff_of_finding.2 finding, by simp [LineRule.issue]⟩
    · obtain ⟨imbalance, found⟩ := Option.ne_none_iff_exists'.1 unbalanced
      refine ⟨imbalance.issue, ?_, by simp [Imbalance.issue]⟩
      rw [mem_issues_iff_of_not_raises (Rule.not_raises_issue _ imbalance)]
      apply List.mem_append_right
      rw [Rule.delimiterIssues, found]
      exact List.mem_singleton_self _

end Analyzer

/-- Following the suggestion about tabs takes away these errors and no other
finding. With spaces in place of its tabs a text has no error about tabs. It has
the same number of lines that are not blank and of keywords, the warning about
the entrypoint and the information about long-form keywords if it had them
before, and the error about a delimiter, at the same line, if it had this. So
only a delimiter that does not nest can still be an error. -/
theorem analyze_withSpaces {settings : Settings} {analyzer : Analyzer}
    (accepted : Analyzer.ofSettings settings = .ok analyzer) {width : Nat}
    (positive : 0 < width) (text : List Char) :
    (∀ number,
        LineRule.tab.issue settings number ∉
          (analyzer.analyze (withSpaces width text)).issues) ∧
      (analyzer.analyze (withSpaces width text)).nonEmptyLineCount =
        (analyzer.analyze text).nonEmptyLineCount ∧
      (analyzer.analyze (withSpaces width text)).keywordHitCount =
        (analyzer.analyze text).keywordHitCount ∧
      (Rule.missingEntrypoint settings.entrypoint ∈
          (analyzer.analyze (withSpaces width text)).issues ↔
        Rule.missingEntrypoint settings.entrypoint ∈
          (analyzer.analyze text).issues) ∧
      (Rule.longformKeywords ∈
          (analyzer.analyze (withSpaces width text)).issues ↔
        Rule.longformKeywords ∈ (analyzer.analyze text).issues) ∧
      (∀ imbalance : Imbalance,
        imbalance.issue ∈
            (analyzer.analyze (withSpaces width text)).issues ↔
          imbalance.issue ∈ (analyzer.analyze text).issues) ∧
      ((analyzer.analyze (withSpaces width text)).hasErrors = true ↔
        Delimiter.scan text ≠ none) := by
  have sameSettings := Analyzer.settings_of_ofSettings accepted
  subst sameSettings
  have sameText :=
    Rule.textIssues_withSpaces analyzer.entrypoint_isIdentifier positive text
  have noTab :
      ¬ ∃ line ∈ lines (withSpaces width text), '\t' ∈ line := by
    rintro ⟨line, isLine, tab⟩
    rw [lines_withSpaces positive] at isLine
    obtain ⟨before, _, rfl⟩ := List.mem_map.1 isLine
    exact tab_not_mem_withSpaces width before tab
  have staysOutside :
      ∀ issue : Issue,
        (∀ rule : LineRule, ¬ rule.Raises analyzer.settings issue) →
          (issue ∈ (analyzer.analyze (withSpaces width text)).issues ↔
            issue ∈ (analyzer.analyze text).issues) := by
    intro issue notRaised
    rw [Analyzer.mem_issues_iff_of_not_raises notRaised, sameText,
      Analyzer.mem_issues_iff_of_not_raises notRaised]
  refine ⟨?_, ?_, ?_, ?_, ?_, ?_, ?_⟩
  · intro number tabbed
    obtain ⟨_, line, stands, tab⟩ :=
      Rule.mem_lineFindingsFrom_iff.1
        (Analyzer.mem_issues_iff_of_finding.1 tabbed)
    exact noTab ⟨line, List.mem_of_getElem? stands, tab⟩
  · rw [analyzer.analyze_eq, analyzer.analyze_eq]
    simp only [lines_withSpaces positive, List.countP_map]
    apply List.countP_congr
    intro line _
    rw [Function.comp_apply, isBlank_withSpaces positive]
  · rw [analyzer.analyze_eq, analyzer.analyze_eq]
    exact (Respacing.spaces width positive).count_apply .shorthand text
  · exact staysOutside _ (LineRule.not_raises_of_line_eq_none rfl)
  · exact staysOutside _ (LineRule.not_raises_of_line_eq_none rfl)
  · intro imbalance
    exact staysOutside _ (Rule.not_raises_issue _ imbalance)
  · rw [Analyzer.hasErrors_analyze_iff, or_iff_right noTab, Ne, Ne,
      ← Rule.delimiterIssues_eq_nil_iff, Rule.delimiterIssues_withSpaces,
      Rule.delimiterIssues_eq_nil_iff]

/-- A tab in the gap of the declaration, one in front of a keyword and one
inside a pair that is left open on the line before. -/
theorem analyze_withSpaces_three_tabs :
    Analyzer.ofSettings {} = .ok .standard ∧
      0 < 2 ∧
      withSpaces 2 "f\tmain([\n\tfn\t)".toList = "f  main([\n  fn  )".toList ∧
      (∀ number,
        LineRule.tab.issue {} number ∉
          (Analyzer.standard.analyze "f  main([\n  fn  )".toList).issues) ∧
      Rule.missingEntrypoint "main" ∉
        (Analyzer.standard.analyze "f  main([\n  fn  )".toList).issues ∧
      Imbalance.issue ⟨.unmatchedClosing, ')', ⟨2, 5⟩⟩ ∈
        (Analyzer.standard.analyze "f  main([\n  fn  )".toList).issues := by
  have accepted : Analyzer.ofSettings {} = .ok .standard := rfl
  have positive : 0 < 2 := by decide
  obtain ⟨noTab, _, _, sameWarning, _, sameError, _⟩ :=
    analyze_withSpaces accepted positive "f\tmain([\n\tfn\t)".toList
  have spaced :
      withSpaces 2 "f\tmain([\n\tfn\t)".toList =
        "f  main([\n  fn  )".toList := by decide
  rw [spaced] at noTab sameWarning sameError
  refine ⟨accepted, positive, spaced, noTab, ?_, ?_⟩
  · rw [sameWarning]
    decide
  · rw [sameError]
    decide

end Preflight
