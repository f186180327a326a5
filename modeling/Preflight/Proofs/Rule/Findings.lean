import Preflight.Proofs.Rule.Lines

/-!
# The order of findings

The findings of the line rules come line by line and, within a line, in the
order of the rules. Every broken rule is found once, at the number of its
line, and the issue that a finding raises tells the finding.
-/

namespace Preflight

namespace LineRule

/-- The place of a rule among the rules. -/
def rank : LineRule → Nat
  | tab => 0
  | indentation => 1
  | length => 2

theorem pairwise_rank_all :
    all.Pairwise fun first second => first.rank < second.rank := by
  decide

end LineRule

namespace Rule

/-- The order of findings: by lines, then by rules. -/
def Precedes (first second : Nat × LineRule) : Prop :=
  first.1 < second.1 ∨
    first.1 = second.1 ∧ first.2.rank < second.2.rank

theorem mem_lineFindingsFrom_iff {settings : Settings} {number found : Nat}
    {lines : List (List Char)} {rule : LineRule} :
    (found, rule) ∈ lineFindingsFrom settings number lines ↔
      number ≤ found ∧
        ∃ line,
          lines[found - number]? = some line ∧
            rule.Breaks settings line := by
  simp only [lineFindingsFrom, List.mem_flatMap, List.mem_map, Prod.exists,
    Prod.mk.injEq, mem_broken_iff, List.mk_mem_zipIdx_iff_le_and_getElem?_sub]
  constructor
  · intro listed
    obtain ⟨line, _, ⟨later, stands⟩, other, breaks, rfl, rfl⟩ := listed
    exact ⟨later, line, stands, breaks⟩
  · intro finding
    obtain ⟨later, line, stands, breaks⟩ := finding
    exact ⟨line, found, ⟨later, stands⟩, rule, breaks, rfl, rfl⟩

theorem pairwise_precedes_broken (settings : Settings) (number : Nat)
    (line : List Char) :
    ((broken settings line).map fun rule => (number, rule)).Pairwise
      Precedes := by
  rw [List.pairwise_map]
  have ranked := LineRule.pairwise_rank_all.filter
    fun rule => decide (rule.Breaks settings line)
  apply ranked.imp
  intro first second lower
  exact Or.inr ⟨rfl, lower⟩

theorem pairwise_precedes_lineFindingsFrom (settings : Settings)
    (number : Nat) (lines : List (List Char)) :
    (lineFindingsFrom settings number lines).Pairwise Precedes := by
  induction lines generalizing number with
  | nil => exact List.Pairwise.nil
  | cons line rest inductionHypothesis =>
      rw [lineFindingsFrom_cons, List.pairwise_append]
      refine ⟨pairwise_precedes_broken settings number line,
        inductionHypothesis (number + 1), ?_⟩
      intro first firstMember second laterMember
      obtain ⟨_, _, rfl⟩ := List.mem_map.1 firstMember
      have later := (mem_lineFindingsFrom_iff.1 laterMember).1
      exact Or.inl later

/-- The messages of the rules begin with different letters. -/
theorem eq_of_head?_message_eq {settings : Settings} {number other : Nat}
    {rule otherRule : LineRule}
    (same :
      (rule.issue settings number).message.toList.head? =
        (otherRule.issue settings other).message.toList.head?) :
    rule = otherRule := by
  cases rule <;> cases otherRule <;>
    simp [LineRule.issue, String.toList_append] at same ⊢

theorem findingIssue_injective (settings : Settings) :
    Function.Injective (findingIssue settings) := by
  rintro ⟨number, rule⟩ ⟨other, otherRule⟩ same
  have sameLine := congrArg Issue.line same
  have sameMessage := congrArg Issue.message same
  have sameNumber : number = other := by
    cases rule <;> cases otherRule <;> exact Option.some.inj sameLine
  have sameRule : rule = otherRule :=
    eq_of_head?_message_eq (congrArg (fun text => text.toList.head?) sameMessage)
  rw [sameNumber, sameRule]

end Rule

/-! ## Issues and their rules -/

namespace LineRule

/-- An issue that the rule raises, at whatever line. -/
def Raises (settings : Settings) (rule : LineRule) (issue : Issue) : Prop :=
  ∃ number, issue = rule.issue settings number

theorem line_issue (settings : Settings) (number : Nat) (rule : LineRule) :
    (rule.issue settings number).line = some number := by
  cases rule <;> rfl

theorem not_raises_of_line_eq_none {settings : Settings} {issue : Issue}
    (unplaced : issue.line = none) (rule : LineRule) :
    ¬ rule.Raises settings issue := by
  rintro ⟨number, rfl⟩
  rw [rule.line_issue] at unplaced
  cases unplaced

theorem raises_iff {settings : Settings} {rule : LineRule} {issue : Issue} :
    rule.Raises settings issue ↔
      ∃ number ∈ issue.line, issue = rule.issue settings number := by
  constructor
  · rintro ⟨number, rfl⟩
    exact ⟨number, rule.line_issue settings number, rfl⟩
  · rintro ⟨number, _, raised⟩
    exact ⟨number, raised⟩

instance (settings : Settings) (rule : LineRule) (issue : Issue) :
    Decidable (rule.Raises settings issue) :=
  match line : issue.line with
  | none => isFalse (by rw [raises_iff, line]; simp)
  | some number =>
      decidable_of_iff (issue = rule.issue settings number)
        (by rw [raises_iff, line]; simp)

theorem raises_findingIssue_iff {settings : Settings} {rule : LineRule}
    {finding : Nat × LineRule} :
    rule.Raises settings (Rule.findingIssue settings finding) ↔
      finding.2 = rule := by
  constructor
  · rintro ⟨number, same⟩
    apply Rule.eq_of_head?_message_eq
    exact congrArg (fun issue => issue.message.toList.head?) same
  · intro same
    exact ⟨finding.1, by rw [Rule.findingIssue, same]⟩

end LineRule

end Preflight
