import Preflight.Proofs.IssueList
import Preflight.Proofs.Keyword
import Preflight.Proofs.Record.Report

/-!
# Counts that data can carry

Every count of an analysis is bounded by the length of the text or, in the
case of comparative tokens, by the greatest count. A text in memory is shorter
than the greatest count, so data can carry its analysis and the report on it.
-/

namespace Preflight

open Text

theorem Text.length_wholeWordsFrom_le (afterWord : Bool) (offset : Nat)
    (text : List Char) :
    (wholeWordsFrom afterWord offset text).length ≤ text.length := by
  induction text generalizing afterWord offset with
  | nil => exact Nat.le_refl 0
  | cons c rest inductionHypothesis =>
      unfold wholeWordsFrom
      split
      · exact Nat.succ_le_succ (inductionHypothesis true (offset + 1))
      · exact Nat.le_succ_of_le
          (inductionHypothesis (isWordChar c) (offset + 1))

theorem Vocabulary.count_le_length (vocabulary : Vocabulary)
    (text : List Char) : vocabulary.count text ≤ text.length := by
  rw [vocabulary.count_eq_countP]
  calc (wholeWords text).countP _
      ≤ (wholeWords text).length := List.countP_le_length
    _ ≤ text.length := length_wholeWordsFrom_le false 0 text

theorem TokenCount.comparative_le (tokens : Nat) (ratio : Binary64) :
    comparative tokens ratio ≤ maxCount := by
  have rounded : ∀ units, roundToCount units ≤ maxCount :=
    fun _ => Nat.min_le_left _ _
  simp only [comparative]
  split
  · exact Nat.zero_le maxCount
  · split
    · split
      · exact Nat.zero_le maxCount
      · exact Nat.le_refl maxCount
    · exact rounded _

/-- Data can carry the analysis of a text that is shorter than the greatest
count. -/
theorem Analyzer.isCounted_analyze (analyzer : Analyzer) {text : List Char}
    (short : text.length < maxCount) : (analyzer.analyze text).IsCounted := by
  have lineCount : (lines text).length ≤ maxCount := by
    have feeds : text.count '\n' ≤ text.length := List.count_le_length
    rw [length_lines]
    omega
  have tokenCount :=
    TokenCount.tokens_le_chars analyzer.charsPerToken_ne_zero text.length
  have keywordCount := Vocabulary.shorthand.count_le_length text
  constructor
  · rw [analyzer.analyze_eq]
    exact Nat.le_trans List.countP_le_length lineCount
  · rw [analyzer.analyze_eq]
    exact Nat.le_trans tokenCount (Nat.le_of_lt short)
  · rw [analyzer.analyze_eq]
    exact TokenCount.comparative_le _ _
  · rw [analyzer.analyze_eq]
    exact Nat.le_trans keywordCount (Nat.le_of_lt short)
  · intro issue member line carried
    have inside := (Analyzer.line_of_issue member carried).2
    exact Nat.le_trans inside lineCount

theorem Analysis.IsCounted.errorsOnly {analysis : Analysis}
    (counted : analysis.IsCounted) : analysis.errorsOnly.IsCounted :=
  ⟨counted.nonEmptyLines, counted.estimated, counted.comparative,
    counted.keywordHits,
    fun issue member => counted.lines issue (List.mem_of_mem_filter member)⟩

theorem Report.isCounted_ofAnalysis {analysis : Analysis}
    (counted : analysis.IsCounted) : (ofAnalysis analysis).IsCounted := by
  have one : 1 ≤ maxCount := by decide
  cases shown : shownIssue? analysis.issues with
  | none =>
      rw [ofAnalysis_eq_ok shown]
      exact ⟨counted.estimated, counted.comparative, counted.keywordHits,
        counted.nonEmptyLines⟩
  | some issue =>
      rw [ofAnalysis_eq_ofIssue shown]
      refine ⟨?_, one⟩
      have lineCounted := counted.lines issue (mem_of_shownIssue? shown)
      cases carried : issue.line with
      | none => exact one
      | some line => exact lineCounted line carried

end Preflight
