import Preflight.Proofs.Analyzer
import Preflight.Proofs.Delimiter.Moved
import Preflight.Proofs.Entrypoint
import Preflight.Proofs.Keyword

/-!
# Texts joined at a line end

A line feed between two texts ends a line, a word and, where nothing waits,
the scan of the first text. So what an analysis finds in the joined text it
finds in the two texts, with the lines of the second numbered behind those of
the first. This holds as well for a first text that ends in a carriage return,
which the line feed makes part of the line end.
-/

namespace Preflight

open Text

/-- The same finding, some lines farther down. -/
def Issue.movedDown (issue : Issue) (lines : Nat) : Issue :=
  { issue with line := issue.line.map (· + lines) }

namespace Rule

theorem findingIssue_add (settings : Settings) (number lines : Nat)
    (rule : LineRule) :
    findingIssue settings (number + lines, rule) =
      (findingIssue settings (number, rule)).movedDown lines := by
  cases rule <;> rfl

/-- The line rules find in lines below others what they find in these lines
alone, at higher numbers. -/
theorem lineIssues_append {settings : Settings}
    (positive : settings.indentWidth ≠ 0) (above below : List (List Char)) :
    ∃ aboveIssues belowIssues,
      lineIssues settings above = .ok aboveIssues ∧
        lineIssues settings below = .ok belowIssues ∧
        lineIssues settings (above ++ below) =
          .ok (aboveIssues ++
            belowIssues.map (·.movedDown above.length)) := by
  have found := lineIssuesFrom_eq_ok positive 1
  refine ⟨_, _, found above, found below, ?_⟩
  rw [lineIssues, found, lineFindingsFrom_append, lineFindingsFrom_add,
    List.map_append, List.map_map, List.map_map]
  congr 2
  apply List.map_congr_left
  intro finding _
  exact findingIssue_add settings finding.1 above.length finding.2

end Rule

namespace Analyzer

/-- The findings in lines are the first issues of an analysis. -/
theorem prefix_of_lineIssues {settings : Settings} {analyzer : Analyzer}
    (accepted : ofSettings settings = .ok analyzer) {text : List Char}
    {issues : List Issue}
    (found : Rule.lineIssues settings (lines text) = .ok issues) :
    issues <+: (analyzer.analyze text).issues := by
  have sameSettings := settings_of_ofSettings accepted
  have foundToo :=
    Rule.lineIssuesFrom_eq_ok analyzer.indentWidth_ne_zero 1 (lines text)
  rw [sameSettings, ← Rule.lineIssues, found] at foundToo
  rw [analyzer.issues_analyze, sameSettings, ← Except.ok.inj foundToo,
    List.append_assoc]
  exact List.prefix_append _ _

end Analyzer

/-- An analysis is put together at line ends. Of two texts with a line feed
between them, the issues of the line rules are those of the first text and
then those of the second, moved down by the lines of the first. The non-empty
lines and the keywords of either vocabulary add up. An entrypoint declared in
one of the texts is declared in the joined text. The scan of the delimiters
ends where it ends in the first text if that is at a closer, and where it ends
in the second, moved down, if the first is balanced. -/
theorem analyze_joined_at_line_end {settings : Settings} {analyzer : Analyzer}
    (accepted : Analyzer.ofSettings settings = .ok analyzer)
    (first second : List Char) :
    (∃ firstIssues secondIssues,
        Rule.lineIssues settings (lines first) = .ok firstIssues ∧
          Rule.lineIssues settings (lines second) = .ok secondIssues ∧
          Rule.lineIssues settings (lines (first ++ '\n' :: second)) =
            .ok (firstIssues ++
              secondIssues.map (·.movedDown (lines first).length)) ∧
          firstIssues <+: (analyzer.analyze first).issues ∧
          secondIssues <+: (analyzer.analyze second).issues ∧
          firstIssues ++ secondIssues.map (·.movedDown (lines first).length)
            <+: (analyzer.analyze (first ++ '\n' :: second)).issues) ∧
      (analyzer.analyze (first ++ '\n' :: second)).nonEmptyLineCount =
        (analyzer.analyze first).nonEmptyLineCount +
          (analyzer.analyze second).nonEmptyLineCount ∧
      (∀ vocabulary : Vocabulary,
        vocabulary.count (first ++ '\n' :: second) =
          vocabulary.count first + vocabulary.count second) ∧
      (analyzer.analyze (first ++ '\n' :: second)).keywordHitCount =
        (analyzer.analyze first).keywordHitCount +
          (analyzer.analyze second).keywordHitCount ∧
      (Entrypoint.isDeclared settings.entrypoint.toList first = true ∨
          Entrypoint.isDeclared settings.entrypoint.toList second = true →
        Entrypoint.isDeclared settings.entrypoint.toList
            (first ++ '\n' :: second) =
          true) ∧
      ((Delimiter.scan first).map Imbalance.kind = some .unmatchedClosing →
        Delimiter.scan (first ++ '\n' :: second) = Delimiter.scan first) ∧
      (Delimiter.scan first = none →
        Delimiter.scan (first ++ '\n' :: second) =
          (Delimiter.scan second).map fun imbalance =>
            ⟨imbalance.kind, imbalance.character,
              imbalance.position.line + (lines first).length,
              imbalance.position.column⟩) := by
  have feedOutside : isWordChar '\n' = false := by decide
  have positive := analyzer.indentWidth_ne_zero
  rw [Analyzer.settings_of_ofSettings accepted] at positive
  have counted : ∀ vocabulary : Vocabulary,
      vocabulary.count (first ++ '\n' :: second) =
        vocabulary.count first + vocabulary.count second :=
    fun vocabulary => vocabulary.count_append_cons feedOutside first second
  refine ⟨?_, ?_, counted, ?_, ?_, ?_, ?_⟩
  · obtain ⟨firstIssues, secondIssues, foundFirst, foundSecond, found⟩ :=
      Rule.lineIssues_append positive (lines first) (lines second)
    rw [← lines_append_feed] at found
    exact ⟨firstIssues, secondIssues, foundFirst, foundSecond, found,
      Analyzer.prefix_of_lineIssues accepted foundFirst,
      Analyzer.prefix_of_lineIssues accepted foundSecond,
      Analyzer.prefix_of_lineIssues accepted found⟩
  · simp only [analyzer.analyze_eq, lines_append_feed, List.countP_append]
  · simp only [analyzer.analyze_eq]
    exact counted .shorthand
  · simp only [Entrypoint.isDeclared_iff]
    rintro (declared | declared)
    · exact declared.append _
    · exact declared.prepend feedOutside first
  · intro unmatched
    exact Delimiter.scan_append_of_unmatchedClosing unmatched _
  · intro balanced
    exact Delimiter.scan_append_feed_of_balanced balanced second

/-- A first text that ends in a carriage return, declares the entrypoint and
is balanced, and one that ends the scan at a closer. -/
theorem analyze_joined_at_line_end_return :
    Analyzer.ofSettings {} = .ok .standard ∧
      Entrypoint.isDeclared "main".toList "f main()\r\n\tx)".toList = true ∧
      Delimiter.scan "f main()\r\n\tx)".toList =
        some ⟨.unmatchedClosing, ')', 2, 3⟩ ∧
      Delimiter.scan "[)\r\n]".toList =
        some ⟨.unmatchedClosing, ')', 1, 2⟩ := by
  have accepted : Analyzer.ofSettings {} = .ok .standard := rfl
  obtain ⟨_, _, _, _, declared, _, moved⟩ :=
    analyze_joined_at_line_end accepted "f main()\r".toList "\tx)".toList
  obtain ⟨_, _, _, _, _, stays, _⟩ :=
    analyze_joined_at_line_end accepted "[)\r".toList "]".toList
  refine ⟨accepted, declared (Or.inl (by decide)), ?_, ?_⟩
  · exact (moved (by decide)).trans (by decide)
  · exact (stays (by decide)).trans (by decide)

end Preflight
