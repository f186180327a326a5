import Preflight.Proofs.Render.Lossless
import Preflight.Proofs.Text.ColorSequence

/-!
# Colours are decoration

Colour sequences stand around labels only. A label in colours is stripped to
the label, whatever is behind it. In front of a label there is the start of the
text, a line feed or the indentation of a suggestion, so that nothing at the
end of a message goes on into a label. Hence text with colours is stripped to
what the same text without them is stripped to.
-/

namespace Preflight

open Text

/-! ## Labels -/

theorem Ink.isColorSequence_start (ink : Ink) :
    IsColorSequence ("\x1b[" ++ ink.parameters ++ "m").toList := by
  refine ⟨ink.parameters.toList, ?_, ?_⟩
  · cases ink <;> rfl
  · rw [← List.all_eq_true]
    cases ink <;> decide

theorem Ink.isColorSequence_end : IsColorSequence "\x1b[0m".toList :=
  ⟨['0'], rfl, List.all_eq_true.1 (by decide)⟩

theorem Ink.stripped_paint_append {label : String}
    (noEscape : '\x1b' ∉ label.toList) (ink : Ink) (rest : List Char) :
    stripped ((ink.paint label).toList ++ rest) =
      label.toList ++ stripped rest := by
  rw [paint, String.toList_append, String.toList_append, List.append_assoc,
    List.append_assoc, stripped_sequence_append ink.isColorSequence_start,
    stripped_append_of_not_mem noEscape,
    stripped_sequence_append isColorSequence_end]

namespace Style

theorem stripped_label_append (style : Style) {text : String}
    (noEscape : '\x1b' ∉ text.toList) (ink : Ink) (rest : List Char) :
    stripped ((style.label ink text).toList ++ rest) =
      text.toList ++ stripped rest := by
  unfold label
  by_cases inColors : style.colored = true
  · rw [if_pos inColors]
    exact ink.stripped_paint_append noEscape rest
  · rw [if_neg inColors]
    exact stripped_append_of_not_mem noEscape rest

/-! ## Entries -/

theorem startsApart_suggestionText (style : Style)
    (suggestion : Option String) :
    StartsApart (style.suggestionText suggestion) := by
  cases suggestion with
  | none => exact startsApart_nil
  | some advice => exact startsApart_cons (by decide) _

theorem startsApart_footerText (analysis : Analysis) :
    StartsApart (footerText analysis).toList := by
  intro c starts
  rw [head_footerText analysis c starts]
  decide

section TwoStyles

variable (style other : Style)

theorem stripped_suggestionText (suggestion : Option String) :
    stripped (style.suggestionText suggestion) =
      stripped (other.suggestionText suggestion) := by
  have noEscape : '\x1b' ∉ "Suggestion:".toList := by decide
  have noFeed : '\n' ≠ '\x1b' := by decide
  have noSpace : ' ' ≠ '\x1b' := by decide
  cases suggestion with
  | none => rfl
  | some advice =>
      simp only [suggestionText, stripped_cons_of_ne noFeed,
        stripped_cons_of_ne noSpace, stripped_label_append _ noEscape]

theorem stripped_issueText (issue : Issue) :
    stripped (style.issueText issue).toList =
      stripped (other.issueText issue).toList := by
  have noEscape : '\x1b' ∉ issue.severity.label.toList := by
    cases issue.severity <;> decide
  have heading :
      ∀ advice : List Char,
        placeText issue.line ++
            (':' :: ' ' :: (issue.message.toList ++ advice)) =
          placeText issue.line ++ (':' :: ' ' :: issue.message.toList) ++
            advice := by
    intro advice
    rw [List.append_assoc, List.cons_append, List.cons_append]
  rw [toList_issueText_eq, toList_issueText_eq,
    stripped_label_append style noEscape, stripped_label_append other noEscape,
    heading, heading,
    stripped_append _ (startsApart_suggestionText style issue.suggestion),
    stripped_append _ (startsApart_suggestionText other issue.suggestion),
    stripped_suggestionText style other]

theorem stripped_passLine :
    stripped style.passLine.toList = stripped other.passLine.toList := by
  have noEscape : '\x1b' ∉ "PASS".toList := by decide
  rw [passLine, passLine, String.toList_append, String.toList_append,
    stripped_label_append style noEscape, stripped_label_append other noEscape]

theorem stripped_issuesText (issues : List Issue) :
    stripped (style.issuesText issues).toList =
      stripped (other.issuesText issues).toList := by
  have feed : '\n' ≠ '\x1b' := by decide
  have apart (later : List Char) : StartsApart ('\n' :: later) :=
    startsApart_cons (by decide) later
  by_cases noIssues : issues = []
  · rw [noIssues]
    exact stripped_passLine style other
  · rw [style.toList_issuesText noIssues, other.toList_issuesText noIssues]
    clear noIssues
    induction issues with
    | nil => rfl
    | cons issue more inductionHypothesis =>
        rw [List.flatMap_cons, List.flatMap_cons, List.append_assoc,
          List.append_assoc, List.singleton_append, List.singleton_append,
          stripped_append _ (apart _), stripped_append _ (apart _),
          stripped_issueText style other, stripped_cons_of_ne feed,
          stripped_cons_of_ne feed, inductionHypothesis]

/-- Styles that differ only in colours write texts that are stripped to the
same. -/
theorem stripped_analysisText (sameFooter : style.footer = other.footer)
    (analysis : Analysis) :
    stripped (style.analysisText analysis).toList =
      stripped (other.analysisText analysis).toList := by
  have apart :
      StartsApart (if other.footer then footerText analysis else "").toList := by
    by_cases withFooter : other.footer = true
    · rw [if_pos withFooter]
      exact startsApart_footerText analysis
    · rw [if_neg withFooter]
      exact startsApart_nil
  rw [analysisText, analysisText, sameFooter, String.toList_append,
    String.toList_append, stripped_append _ apart, stripped_append _ apart,
    stripped_issuesText style other]

end TwoStyles

end Style

/-! ## Texts without escape characters -/

/-- No text of an issue has an escape character. -/
def Analysis.IsEscapeFree (analysis : Analysis) : Prop :=
  ∀ issue ∈ analysis.issues,
    '\x1b' ∉ issue.message.toList ∧
      ∀ advice ∈ issue.suggestion, '\x1b' ∉ advice.toList

namespace Style

theorem escape_not_mem_footerText (analysis : Analysis) :
    '\x1b' ∉ (footerText analysis).toList := by
  apply not_mem_footerText (by decide)
  unfold footerText
  simp only [String.toList_append, List.mem_append, not_or]
  simp [Analysis.count]

theorem escape_not_mem_analysisText (footer : Bool) {analysis : Analysis}
    (escapeFree : analysis.IsEscapeFree) :
    '\x1b' ∉ (analysisText ⟨false, footer⟩ analysis).toList := by
  have inIssues :
      '\x1b' ∉ (issuesText ⟨false, footer⟩ analysis.issues).toList := by
    apply not_mem_issuesText ⟨false, footer⟩ (by decide)
    · intro _
      simp [passLine, label]
    · intro issue member
      have texts := escapeFree issue member
      apply not_mem_issueText (by decide) _ texts.1 texts.2
      cases issue.severity <;> simp [issueText, label, Severity.label]
  cases footer with
  | true => exact not_mem_append inIssues (escape_not_mem_footerText analysis)
  | false => exact not_mem_append inIssues List.not_mem_nil

end Style

/-- With the footer or without it, text with colours is stripped to what the
same text without them is stripped to. If no issue has an escape character,
that is the text without colours. -/
theorem colors_are_decoration (footer : Bool) (analysis : Analysis) :
    stripped (Style.analysisText ⟨true, footer⟩ analysis).toList =
        stripped (Style.analysisText ⟨false, footer⟩ analysis).toList ∧
      (analysis.IsEscapeFree →
        stripped (Style.analysisText ⟨true, footer⟩ analysis).toList =
          (Style.analysisText ⟨false, footer⟩ analysis).toList) := by
  have sameLeft :=
    Style.stripped_analysisText ⟨true, footer⟩ ⟨false, footer⟩ rfl analysis
  refine ⟨sameLeft, ?_⟩
  intro escapeFree
  have noEscape := Style.escape_not_mem_analysisText footer escapeFree
  exact sameLeft.trans (stripped_eq_self noEscape)

/-- A message that ends like the start of a sequence, in front of a suggestion
that reads like its end, and texts that are a sequence but for the escape
character. -/
theorem colors_are_decoration_fragments :
    stripped
          (Style.analysisText ⟨true, false⟩
            { issues :=
              [{ severity := .warn, message := "\x1b[1;\x1b",
                 suggestion := some "[0m\x1b[4mx" }] }).toList =
        "WARN: \x1b[1;\x1b\n  Suggestion: [0mx\n".toList ∧
      ({ issues :=
          [{ severity := .error, message := "[1;31m", line := some 3,
             suggestion := some "0m" }] } : Analysis).IsEscapeFree ∧
        stripped
            (Style.analysisText ⟨true, false⟩
              { issues :=
                [{ severity := .error, message := "[1;31m", line := some 3,
                   suggestion := some "0m" }] }).toList =
          "ERROR (line 3): [1;31m\n  Suggestion: 0m\n".toList := by
  have escapeFree :
      ({ issues :=
          [{ severity := .error, message := "[1;31m", line := some 3,
             suggestion := some "0m" }] } : Analysis).IsEscapeFree := by
    intro issue member
    rw [List.mem_singleton.1 member]
    exact ⟨by decide, by decide⟩
  obtain ⟨fragments, _⟩ :=
    colors_are_decoration false
      { issues :=
        [{ severity := .warn, message := "\x1b[1;\x1b",
           suggestion := some "[0m\x1b[4mx" }] }
  obtain ⟨_, plain⟩ := colors_are_decoration false _
  refine ⟨fragments.trans (by decide), escapeFree, ?_⟩
  exact (plain escapeFree).trans (by decide)

end Preflight
