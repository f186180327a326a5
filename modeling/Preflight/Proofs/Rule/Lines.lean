import Preflight.Rule.Lines

/-!
# Findings in lines

What it means for a line to break a rule, and which findings a list of lines
has: pairs of a line number and a rule, in the order of the lines and then of
the rules. With a positive step the line rules report exactly these.
-/

namespace Preflight

open Text

namespace LineRule

/-- The rules in their order. -/
def all : List LineRule := [tab, indentation, length]

/-- When a line breaks a rule. -/
def Breaks (settings : Settings) (line : List Char) : LineRule → Prop
  | tab => '\t' ∈ line
  | indentation =>
      isBlank line = false ∧ ¬ settings.indentWidth ∣ leadingSpaces line
  | length => settings.maxLineLength < line.length

instance (settings : Settings) (line : List Char) (rule : LineRule) :
    Decidable (rule.Breaks settings line) := by
  cases rule <;> unfold Breaks <;> infer_instance

theorem mem_all (rule : LineRule) : rule ∈ all := by
  cases rule <;> decide

end LineRule

namespace Rule

/-- The rules that a line breaks, in their order. -/
def broken (settings : Settings) (line : List Char) : List LineRule :=
  LineRule.all.filter fun rule => rule.Breaks settings line

/-- What the line rules find, with line numbers from `number` on. -/
def lineFindingsFrom (settings : Settings) (number : Nat)
    (lines : List (List Char)) : List (Nat × LineRule) :=
  (lines.zipIdx number).flatMap fun (line, number) =>
    (broken settings line).map fun rule => (number, rule)

/-- The issue that a finding raises. -/
def findingIssue (settings : Settings) (finding : Nat × LineRule) : Issue :=
  finding.2.issue settings finding.1

theorem mem_broken_iff {settings : Settings} {line : List Char}
    {rule : LineRule} :
    rule ∈ broken settings line ↔ rule.Breaks settings line := by
  simp [broken, LineRule.mem_all]

theorem lineFindingsFrom_cons (settings : Settings) (number : Nat)
    (line : List Char) (rest : List (List Char)) :
    lineFindingsFrom settings number (line :: rest) =
      (broken settings line).map (fun rule => (number, rule)) ++
        lineFindingsFrom settings (number + 1) rest := by
  simp [lineFindingsFrom, List.zipIdx_cons]

theorem lineFindingsFrom_append (settings : Settings) (number : Nat)
    (above below : List (List Char)) :
    lineFindingsFrom settings number (above ++ below) =
      lineFindingsFrom settings number above ++
        lineFindingsFrom settings (number + above.length) below := by
  rw [lineFindingsFrom, List.zipIdx_append, List.flatMap_append,
    lineFindingsFrom, lineFindingsFrom]

/-- The findings in lines that are numbered higher are the same ones at higher
numbers. -/
theorem lineFindingsFrom_add (settings : Settings) (number more : Nat)
    (lines : List (List Char)) :
    lineFindingsFrom settings (number + more) lines =
      (lineFindingsFrom settings number lines).map fun finding =>
        (finding.1 + more, finding.2) := by
  induction lines generalizing number with
  | nil => rfl
  | cons line rest inductionHypothesis =>
      have sameNumber : number + more + 1 = number + 1 + more := by omega
      rw [lineFindingsFrom_cons, lineFindingsFrom_cons, sameNumber,
        inductionHypothesis, List.map_append, List.map_map]
      rfl

/-! ## The rules report the findings -/

theorem isMisindented_eq_ok {indentWidth : Nat}
    (positive : indentWidth ≠ 0) (line : List Char) :
    isMisindented indentWidth line =
      .ok (isBlank line = false ∧ ¬ indentWidth ∣ leadingSpaces line) := by
  unfold isMisindented remainder
  cases blank : isBlank line with
  | true => simp
  | false =>
      rw [if_neg positive]
      simp [Except.map, Nat.dvd_iff_mod_eq_zero]

theorem brokenRules_eq_ok {settings : Settings}
    (positive : settings.indentWidth ≠ 0) (line : List Char) :
    brokenRules settings line = .ok (broken settings line) := by
  unfold brokenRules
  rw [isMisindented_eq_ok positive]
  simp only [Except.map, broken, LineRule.all, List.filter_cons,
    List.filter_nil, LineRule.Breaks, List.contains_iff_mem,
    decide_eq_true_eq]
  by_cases tabbed : '\t' ∈ line <;>
    by_cases misindented :
      isBlank line = false ∧
        ¬ settings.indentWidth ∣ leadingSpaces line <;>
    by_cases long : settings.maxLineLength < line.length <;>
    simp [tabbed, misindented, long]

theorem lineIssuesFrom_eq_ok {settings : Settings}
    (positive : settings.indentWidth ≠ 0) (number : Nat)
    (lines : List (List Char)) :
    lineIssuesFrom settings number lines =
      .ok ((lineFindingsFrom settings number lines).map
        (findingIssue settings)) := by
  induction lines generalizing number with
  | nil => rfl
  | cons line rest inductionHypothesis =>
      rw [lineIssuesFrom, brokenRules_eq_ok positive,
        inductionHypothesis, lineFindingsFrom_cons, List.map_append,
        List.map_map]
      rfl

/-! ## Lines without findings -/

theorem broken_eq_nil_iff {settings : Settings} {line : List Char} :
    broken settings line = [] ↔
      ∀ rule : LineRule, ¬ rule.Breaks settings line := by
  simp only [List.eq_nil_iff_forall_not_mem, mem_broken_iff]

theorem lineFindingsFrom_eq_nil_iff {settings : Settings} (number : Nat)
    {lines : List (List Char)} :
    lineFindingsFrom settings number lines = [] ↔
      ∀ line ∈ lines, ∀ rule : LineRule, ¬ rule.Breaks settings line := by
  induction lines generalizing number with
  | nil => simp [lineFindingsFrom]
  | cons line rest inductionHypothesis =>
      rw [lineFindingsFrom_cons, List.append_eq_nil_iff,
        List.map_eq_nil_iff, broken_eq_nil_iff, inductionHypothesis,
        List.forall_mem_cons]

end Rule

end Preflight
