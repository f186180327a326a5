import Preflight.Proofs.Analyzer
import Preflight.Proofs.Delimiter.Run
import Preflight.Proofs.Respacing
import Preflight.Proofs.Text.Line

/-!
# Line endings

A text may end its lines with a line feed or with a carriage return and a line
feed. Lines drop the carriage return, the scan for delimiters forgets its
column at the line feed, and for words it is white space like the line feed
itself. So both kinds of line ending give the same analysis. Only the size of
the text tells them apart.
-/

namespace Preflight

open Text

namespace Text

/-- The text with a carriage return in front of every line feed. -/
def withReturns (text : List Char) : List Char :=
  text.flatMap fun c => if c = '\n' then ['\r', '\n'] else [c]

theorem withReturns_feed (rest : List Char) :
    withReturns ('\n' :: rest) = '\r' :: '\n' :: withReturns rest :=
  rfl

theorem withReturns_cons {c : Char} (noFeed : c ≠ '\n')
    (rest : List Char) : withReturns (c :: rest) = c :: withReturns rest := by
  rw [withReturns, List.flatMap_cons, if_neg noFeed]
  rfl

theorem length_withReturns (text : List Char) :
    (withReturns text).length = text.length + text.count '\n' := by
  induction text with
  | nil => rfl
  | cons c rest inductionHypothesis =>
      by_cases feed : c = '\n'
      · subst feed
        simp only [withReturns_feed, List.length_cons, List.count_cons_self,
          inductionHypothesis]
        omega
      · simp only [withReturns_cons feed, List.length_cons,
          List.count_cons_of_ne feed, inductionHypothesis]
        omega

/-! ## Lines -/

theorem lines_withReturns {text : List Char} (noReturn : '\r' ∉ text) :
    lines (withReturns text) = lines text := by
  induction text with
  | nil => rfl
  | cons c rest inductionHypothesis =>
      have notReturn : c ≠ '\r' := by
        intro same
        apply noReturn
        rw [same]
        exact List.mem_cons_self
      have restLines : lines (withReturns rest) = lines rest := by
        apply inductionHypothesis
        intro member
        exact noReturn (List.mem_cons_of_mem c member)
      by_cases feed : c = '\n'
      · subst feed
        rw [withReturns_feed, lines_return_feed, lines_feed, restLines]
      · obtain ⟨line, more, split⟩ :=
          List.exists_cons_of_ne_nil (lines_ne_nil rest)
        rw [split] at restLines
        rw [withReturns_cons feed, lines_cons feed notReturn restLines,
          lines_cons feed notReturn split]

end Text

/-! ## Words -/

/-- Carriage returns in front of line feeds are a way to respace. -/
def Respacing.returns : Respacing where
  spread c := if c = '\n' then ['\r', '\n'] else [c]
  spread_other := by
    intro c black
    have notFeed : c ≠ '\n' := by
      intro same
      rw [same] at black
      cases black
    rw [if_neg notFeed]
  spread_ne_nil := by
    intro c
    split <;> exact List.cons_ne_nil _ _
  isSpace_of_mem_spread := by
    intro c white
    have returnWhite : isSpace '\r' = true := by decide
    have feedWhite : isSpace '\n' = true := by decide
    split
    · simp [returnWhite, feedWhite]
    · simpa using white

theorem Respacing.returns_apply (text : List Char) :
    returns.apply text = withReturns text :=
  rfl

/-! ## Delimiters -/

namespace Pending

theorem readAll_return_feed (pending : Pending) (rest : List Char) :
    pending.readAll ('\r' :: '\n' :: rest) =
      pending.readAll ('\n' :: rest) := by
  have returnNeutral : '\r' ∉ Delimiter.characters := by decide
  have feedNeutral : '\n' ∉ Delimiter.characters := by decide
  -- The line feed starts a new line, whatever column stands before it.
  have sameFeed :
      (pending.place.next '\r').next '\n' = pending.place.next '\n' := by
    simp [Position.next]
  rw [readAll_cons_of_read (read_neutral pending returnNeutral),
    readAll_cons_of_read (read_neutral _ feedNeutral),
    readAll_cons_of_read (read_neutral pending feedNeutral), sameFeed]

theorem readAll_withReturns (pending : Pending) (text : List Char) :
    pending.readAll (withReturns text) = pending.readAll text := by
  induction text generalizing pending with
  | nil => rfl
  | cons c rest inductionHypothesis =>
      have sameStep :
          pending.readAll (withReturns (c :: rest)) =
            pending.readAll (c :: withReturns rest) := by
        by_cases feed : c = '\n'
        · subst feed
          rw [withReturns_feed, readAll_return_feed]
        · rw [withReturns_cons feed]
      rw [sameStep, readAll, readAll]
      cases pending.read c with
      | ok next => exact inductionHypothesis next
      | error imbalance => rfl

end Pending

theorem Delimiter.scan_withReturns (text : List Char) :
    scan (withReturns text) = scan text := by
  rw [scan, Pending.readAll_withReturns, scan]

/-! ## The analysis -/

/-- A text has the same issues in the same order with either kind of line
ending, the same lines that are not blank, the same keywords and the same
imbalance. Its tokens are estimated from the characters and the line endings
together. -/
theorem analyze_withReturns {settings : Settings} {analyzer : Analyzer}
    (accepted : Analyzer.ofSettings settings = .ok analyzer)
    {text : List Char} (noReturn : '\r' ∉ text) :
    (analyzer.analyze (withReturns text)).issues =
        (analyzer.analyze text).issues ∧
      (analyzer.analyze (withReturns text)).nonEmptyLineCount =
        (analyzer.analyze text).nonEmptyLineCount ∧
      (analyzer.analyze (withReturns text)).keywordHitCount =
        (analyzer.analyze text).keywordHitCount ∧
      Delimiter.scan (withReturns text) = Delimiter.scan text ∧
      (analyzer.analyze (withReturns text)).estimatedTokenCount =
        ⌈((text.length + text.count '\n' : Nat) : ℚ) /
          settings.charsPerToken⌉₊ := by
  have sameSettings := Analyzer.settings_of_ofSettings accepted
  have sameLines := lines_withReturns noReturn
  have sameScan := Delimiter.scan_withReturns text
  have sameCount : ∀ vocabulary : Vocabulary,
      vocabulary.count (withReturns text) = vocabulary.count text := by
    intro vocabulary
    rw [← Respacing.returns_apply, Respacing.returns.count_apply]
  have sameDeclaration :
      Entrypoint.isDeclared analyzer.settings.entrypoint.toList
          (withReturns text) =
        Entrypoint.isDeclared analyzer.settings.entrypoint.toList text := by
    rw [← Respacing.returns_apply]
    exact Respacing.returns.isDeclared_apply
      analyzer.entrypoint_isIdentifier text
  refine ⟨?_, ?_, ?_, sameScan, ?_⟩
  · rw [analyzer.issues_analyze, analyzer.issues_analyze, sameLines,
      Rule.entrypointIssues, sameDeclaration, Rule.entrypointIssues,
      Rule.keywordIssues, sameCount, Rule.keywordIssues,
      Rule.delimiterIssues, sameScan, Rule.delimiterIssues]
  · rw [analyzer.analyze_eq, analyzer.analyze_eq, sameLines]
  · rw [analyzer.analyze_eq, analyzer.analyze_eq, sameCount]
  · rw [analyzer.analyze_eq, ← sameSettings, ← length_withReturns]
    exact TokenCount.tokens_eq_ceil analyzer.charsPerToken_ne_zero _

/-- A tab, a long-form keyword and a pair of delimiters over two line endings,
which ask for one token more. -/
theorem analyze_withReturns_two_endings :
    Analyzer.ofSettings {} = .ok .standard ∧
      '\r' ∉ "f main(\n)\n\tfn é".toList ∧
      (Analyzer.standard.analyze "f main(\r\n)\r\n\tfn é".toList).issues =
        (Analyzer.standard.analyze "f main(\n)\n\tfn é".toList).issues ∧
      (Analyzer.standard.analyze
        "f main(\r\n)\r\n\tfn é".toList).estimatedTokenCount = 5 := by
  have accepted : Analyzer.ofSettings {} = .ok .standard := rfl
  have noReturn : '\r' ∉ "f main(\n)\n\tfn é".toList := by decide
  have spread :
      withReturns "f main(\n)\n\tfn é".toList =
        "f main(\r\n)\r\n\tfn é".toList := by decide
  have size :
      "f main(\n)\n\tfn é".toList.length +
        "f main(\n)\n\tfn é".toList.count '\n' = 17 := by decide
  obtain ⟨sameIssues, _, _, _, estimate⟩ :=
    analyze_withReturns accepted noReturn
  rw [spread] at sameIssues estimate
  rw [size] at estimate
  refine ⟨accepted, noReturn, sameIssues, ?_⟩
  rw [estimate, Nat.ceil_eq_iff (by decide)]
  norm_num

end Preflight
