import Preflight.Proofs.IssueList
import Preflight.Render

/-!
# The characters of the text

What is written about an analysis is words, numbers and the texts of the
issues. The words are the same for all analyses, so a character that is no
digit is in the text if it is in the words or in a text of an issue.

The line that stands in place of issues has a letter that occurs neither in
what is written about an error nor in the footer. So it is never printed beside
errors, with colours or without.
-/

namespace Preflight

open Text

/-- Numbers are written in digits. -/
theorem not_mem_toString {c : Char} (notDigit : c.isDigit = false) (n : Nat) :
    c ∉ (toString n).toList := by
  intro listed
  have inDigits : c ∈ Nat.toDigits 10 n := by
    rwa [Nat.toString_eq_repr, Nat.toList_repr] at listed
  have isDigit := Nat.isDigit_of_mem_toDigits (by decide) (by decide) inDigits
  rw [notDigit] at isDigit
  cases isDigit

theorem not_mem_append {c : Char} {first second : String}
    (notInFirst : c ∉ first.toList) (notInSecond : c ∉ second.toList) :
    c ∉ (first ++ second).toList := by
  rw [String.toList_append, List.mem_append, not_or]
  exact ⟨notInFirst, notInSecond⟩

/-! ## Characters that are written -/

namespace Style

section Characters

variable {c : Char} (notDigit : c.isDigit = false)

include notDigit

/-- All footers have the same words, and digits between them. -/
theorem not_mem_footerText (notInWords : c ∉ (footerText {}).toList)
    (analysis : Analysis) : c ∉ (footerText analysis).toList := by
  have number (n : Nat) := not_mem_toString notDigit n
  unfold footerText at notInWords ⊢
  simp only [String.toList_append, List.mem_append, not_or] at notInWords ⊢
  simp only [notInWords, number, not_false_eq_true, and_self]

/-- What is written about an issue has the words that are written about every
issue of the same severity, a number and the texts of the issue. -/
theorem not_mem_issueText {style : Style} {issue : Issue}
    (notInWords :
      c ∉ (style.issueText
        { severity := issue.severity, message := "", line := some 0,
          suggestion := some "" }).toList)
    (message : c ∉ issue.message.toList)
    (suggestion : ∀ advice ∈ issue.suggestion, c ∉ advice.toList) :
    c ∉ (style.issueText issue).toList := by
  obtain ⟨severity, text, line, advice⟩ := issue
  have nothing : c ∉ "".toList := List.not_mem_nil
  unfold issueText at notInWords ⊢
  simp only [String.toList_append, List.mem_append, not_or] at notInWords ⊢
  obtain ⟨⟨⟨⟨heading, ⟨opening, _⟩, closing⟩, colon⟩, _⟩, label, _⟩ :=
    notInWords
  -- Two parts may be absent: the line, and the suggestion with its label.
  refine ⟨⟨⟨⟨heading, ?_⟩, colon⟩, message⟩, ?_⟩
  · cases line with
    | none => exact nothing
    | some number =>
        simp only [String.toList_append, List.mem_append, not_or]
        exact ⟨⟨opening, not_mem_toString notDigit number⟩, closing⟩
  · cases advice with
    | none => exact nothing
    | some advice =>
        simp only [String.toList_append, List.mem_append, not_or]
        exact ⟨label, suggestion advice rfl⟩

end Characters

variable (style : Style)

/-- Issues are written as their entries, each with a line feed behind it. -/
theorem toList_issuesText {issues : List Issue} (someIssue : issues ≠ []) :
    (style.issuesText issues).toList =
      issues.flatMap fun issue => (style.issueText issue).toList ++ ['\n'] := by
  have feed : "\n".toList = ['\n'] := rfl
  have entries (issues : List Issue) :
      (issues.foldr
          (fun issue later => style.issueText issue ++ "\n" ++ later)
          "").toList =
        issues.flatMap fun issue =>
          (style.issueText issue).toList ++ ['\n'] := by
    induction issues with
    | nil => rfl
    | cons issue more inductionHypothesis =>
        rw [List.foldr_cons, List.flatMap_cons, String.toList_append,
          String.toList_append, feed, inductionHypothesis]
  cases issues with
  | nil => exact absurd rfl someIssue
  | cons issue more => exact entries (issue :: more)

theorem not_mem_issuesText {c : Char} (notFeed : c ≠ '\n')
    {issues : List Issue}
    (notInPassLine : issues = [] → c ∉ style.passLine.toList)
    (notInEntry : ∀ issue ∈ issues, c ∉ (style.issueText issue).toList) :
    c ∉ (style.issuesText issues).toList := by
  by_cases noIssues : issues = []
  · rw [noIssues]
    exact notInPassLine noIssues
  · rw [style.toList_issuesText noIssues, List.mem_flatMap]
    rintro ⟨issue, member, written⟩
    rcases List.mem_append.1 written with inEntry | feed
    · exact notInEntry issue member inEntry
    · exact notFeed (List.mem_singleton.1 feed)

end Style

/-- The texts about an imbalance have the same words for every delimiter. -/
theorem Imbalance.not_mem_texts {c : Char}
    (notDelimiter : c ∉ Delimiter.characters)
    (notInWords :
      ∀ kind,
        c ∉ (message ⟨kind, ' ', Position.beforeText⟩).toList ∧
          c ∉ (suggestion ⟨kind, ' ', Position.beforeText⟩).toList)
    {text : List Char} {imbalance : Imbalance}
    (reported : Delimiter.scan text = some imbalance) :
    c ∉ imbalance.message.toList ∧ c ∉ imbalance.suggestion.toList := by
  obtain ⟨_, _, _, isDelimiter, _⟩ := Delimiter.exists_reported reported
  have character : c ∉ imbalance.character.toString.toList := by
    intro listed
    have same : c = imbalance.character := by
      simpa [Char.toString] using listed
    rw [same] at notDelimiter
    exact notDelimiter isDelimiter
  obtain ⟨kind, delimiter, position⟩ := imbalance
  obtain ⟨inMessage, inSuggestion⟩ := notInWords kind
  cases kind <;>
  · refine ⟨?_, inSuggestion⟩
    unfold message at inMessage ⊢
    simp only [String.toList_append, List.mem_append, not_or] at inMessage ⊢
    exact ⟨inMessage.1, ⟨inMessage.2.1.1, character⟩, inMessage.2.2⟩

/-! ## The letter of the line -/

/-- A text without the letter that marks the line for no issues. -/
def Unmarked (text : String) : Prop := 'P' ∉ text.toList

instance (text : String) : Decidable (Unmarked text) :=
  inferInstanceAs (Decidable (¬ _))

@[simp]
theorem unmarked_append {first second : String} :
    Unmarked (first ++ second) ↔ Unmarked first ∧ Unmarked second := by
  rw [Unmarked, String.toList_append, List.mem_append, not_or, Unmarked,
    Unmarked]

namespace Style

variable (style : Style)

theorem mem_passLine : 'P' ∈ style.passLine.toList := by
  obtain ⟨colored, footer⟩ := style
  cases colored <;> simp [passLine, label, Ink.paint]

theorem unmarked_footerText (analysis : Analysis) :
    Unmarked (footerText analysis) := by
  apply not_mem_footerText (by decide)
  unfold footerText
  simp only [String.toList_append, List.mem_append, not_or]
  simp [Analysis.count]

theorem unmarked_issueText {issue : Issue} (message : Unmarked issue.message)
    (suggestion : ∀ advice ∈ issue.suggestion, Unmarked advice) :
    Unmarked (style.issueText issue) := by
  apply not_mem_issueText (by decide) _ message suggestion
  obtain ⟨colored, footer⟩ := style
  cases issue.severity <;> cases colored <;>
    simp [issueText, label, Ink.paint, Ink.parameters, Ink.ofSeverity,
      Severity.label]

theorem unmarked_issuesText {issues : List Issue} (someIssue : issues ≠ [])
    (unmarked : ∀ issue ∈ issues, Unmarked (style.issueText issue)) :
    Unmarked (style.issuesText issues) := by
  apply style.not_mem_issuesText (by decide) _ unmarked
  intro noIssues
  exact absurd noIssues someIssue

/-- What is written about an error does not start with the line for no
issues, since their labels differ. -/
theorem not_passLine_prefix {issue : Issue} (severe : issue.severity = .error)
    (more : List Issue) (rest : List Char) :
    ¬ style.passLine.toList <+:
      (style.issuesText (issue :: more)).toList ++ rest := by
  obtain ⟨colored, footer⟩ := style
  rw [toList_issuesText _ (List.cons_ne_nil issue more), List.flatMap_cons]
  unfold issueText passLine
  rw [severe]
  cases colored <;>
    simp [label, Ink.paint, Ink.parameters, Ink.ofSeverity, Severity.label]

end Style

/-! ## Errors -/

theorem Imbalance.unmarked {text : List Char} {imbalance : Imbalance}
    (reported : Delimiter.scan text = some imbalance) :
    Unmarked imbalance.message ∧ Unmarked imbalance.suggestion := by
  apply Imbalance.not_mem_texts (by decide) _ reported
  intro kind
  cases kind <;> decide

/-- What is written about an error of an analysis is without the letter. -/
theorem Analyzer.unmarked_error {analyzer : Analyzer} {text : List Char}
    {issue : Issue} (member : issue ∈ (analyzer.analyze text).issues)
    (severe : issue.severity = .error) (style : Style) :
    Unmarked (style.issueText issue) := by
  simp only [analyzer.issues_analyze, List.mem_append, List.mem_map] at member
  rcases member with (⟨⟨number, rule⟩, _, rfl⟩ | declaration | keyword) |
    delimiter
  · cases rule with
    | tab =>
        apply style.unmarked_issueText
        · exact
            (by decide : Unmarked
              "Tab characters detected; FORMA uses spaces for indentation.")
        · rintro _ ⟨rfl⟩
          decide
    | indentation => cases severe
    | length => cases severe
  · have onWarning :=
      (Rule.entrypointIssues_raisesOnce _ text).severity_of_mem declaration
    rw [severe] at onWarning
    cases onWarning
  · have onInformation :=
      (Rule.keywordIssues_raisesOnce text).severity_of_mem keyword
    rw [severe] at onInformation
    cases onInformation
  · unfold Rule.delimiterIssues at delimiter
    obtain ⟨imbalance, reported, rfl⟩ := List.mem_map.1 delimiter
    obtain ⟨message, suggestion⟩ :=
      Imbalance.unmarked (Option.mem_toList.1 reported)
    apply style.unmarked_issueText message
    rintro _ ⟨rfl⟩
    exact suggestion

end Preflight
