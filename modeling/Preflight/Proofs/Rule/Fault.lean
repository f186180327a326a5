import Preflight.Analyzer

/-!
# Rules that meet unsound settings

The line rules divide only where a line is not blank, so steps of no width do
harm exactly when there is such a line. The document rules always divide.
-/

namespace Preflight.Rule

open Text

theorem isMisindented_eq_error_iff {indentWidth : Nat} {line : List Char}
    {fault : Fault} :
    isMisindented indentWidth line = .error fault ↔
      fault = .remainderByZero ∧ indentWidth = 0 ∧ isBlank line = false := by
  unfold isMisindented remainder
  cases blank : isBlank line with
  | true =>
      simp
  | false =>
      by_cases zero : indentWidth = 0
      · simp [zero, Except.map, eq_comm]
      · simp [zero, Except.map]

theorem brokenRules_eq_error_iff {settings : Settings} {line : List Char}
    {fault : Fault} :
    brokenRules settings line = .error fault ↔
      fault = .remainderByZero ∧ settings.indentWidth = 0 ∧
        isBlank line = false := by
  rw [← isMisindented_eq_error_iff, brokenRules]
  cases isMisindented settings.indentWidth line <;> simp [Except.map]

/-- A fault in a line ends the rules, and so does one in a later line. -/
theorem lineIssuesFrom_cons_eq_error_iff {settings : Settings}
    {number : Nat} {line : List Char} {rest : List (List Char)}
    {fault : Fault} :
    lineIssuesFrom settings number (line :: rest) = .error fault ↔
      brokenRules settings line = .error fault ∨
        (∃ broken, brokenRules settings line = .ok broken) ∧
          lineIssuesFrom settings (number + 1) rest = .error fault := by
  rw [lineIssuesFrom]
  cases brokenRules settings line with
  | error cause =>
      simp [bind, Except.bind]
  | ok broken =>
      cases lineIssuesFrom settings (number + 1) rest <;>
        simp [bind, Except.bind, pure, Except.pure]

theorem lineIssuesFrom_eq_error_iff {settings : Settings} {number : Nat}
    {lines : List (List Char)} {fault : Fault} :
    lineIssuesFrom settings number lines = .error fault ↔
      fault = .remainderByZero ∧ settings.indentWidth = 0 ∧
        ∃ line ∈ lines, isBlank line = false := by
  induction lines generalizing number with
  | nil =>
      simp [lineIssuesFrom]
  | cons line rest inductionHypothesis =>
      rw [lineIssuesFrom_cons_eq_error_iff, brokenRules_eq_error_iff,
        inductionHypothesis]
      constructor
      · rintro (⟨rfl, zero, black⟩ | ⟨_, rfl, zero, later, member, black⟩)
        · exact ⟨rfl, zero, line, List.mem_cons_self, black⟩
        · exact ⟨rfl, zero, later, List.mem_cons_of_mem line member, black⟩
      · rintro ⟨rfl, zero, black, member, isBlack⟩
        by_cases here : isBlank line = false
        · exact Or.inl ⟨rfl, zero, here⟩
        · have passes : ∃ broken, brokenRules settings line = .ok broken := by
            cases outcome : brokenRules settings line with
            | error cause =>
                exact absurd (brokenRules_eq_error_iff.1 outcome).2.2 here
            | ok broken =>
                exact ⟨broken, rfl⟩
          rcases List.mem_cons.1 member with rfl | later
          · exact absurd isBlack here
          · exact Or.inr ⟨passes, rfl, zero, black, later, isBlack⟩

theorem documentFindings_eq_error_iff {settings : Settings}
    {text : List Char} {fault : Fault} :
    documentFindings settings text = .error fault ↔
      fault = .quotientByZero ∧ settings.charsPerToken = 0 := by
  unfold documentFindings TokenCount.estimate
  by_cases zero : settings.charsPerToken = 0
  · simp [zero, Except.map, eq_comm]
  · simp [zero, Except.map]

end Preflight.Rule
