import Preflight.Report

/-!
# What a report shows

A report is favourable exactly when all issues are mere information, and
dropping information from the issues leaves it as it is. One pass over the
issues finds the first error and the first warning, and the report shows the
error if there is one.
-/

namespace Preflight.Report

/-! ## The issues that lead -/

/-- The first issue of a severity. -/
def firstIssue? (severity : Severity) (issues : List Issue) : Option Issue :=
  issues.find? fun issue => issue.severity = severity

theorem firstIssue?_append (severity : Severity)
    (issues later : List Issue) :
    firstIssue? severity (issues ++ later) =
      (firstIssue? severity issues).or (firstIssue? severity later) :=
  List.find?_append

/-- What one issue does: it leads its severity unless another issue does. -/
theorem pass_eq (leading : Leading) (issue : Issue) :
    leading.pass issue =
      ⟨leading.error?.or (firstIssue? .error [issue]),
        leading.warning?.or (firstIssue? .warn [issue])⟩ := by
  obtain ⟨error?, warning?⟩ := leading
  obtain ⟨severity, message, line, suggestion⟩ := issue
  cases severity <;> cases error? <;> cases warning? <;> rfl

/-- Passing issues keeps an error and a warning that lead already, and finds
the first of either kind where there was none. -/
theorem foldl_pass (leading : Leading) (issues : List Issue) :
    issues.foldl Leading.pass leading =
      ⟨leading.error?.or (firstIssue? .error issues),
        leading.warning?.or (firstIssue? .warn issues)⟩ := by
  induction issues generalizing leading with
  | nil => simp [firstIssue?]
  | cons issue rest inductionHypothesis =>
      have firstOf : ∀ severity : Severity,
          firstIssue? severity (issue :: rest) =
            (firstIssue? severity [issue]).or (firstIssue? severity rest) :=
        fun severity => firstIssue?_append severity [issue] rest
      rw [List.foldl_cons, inductionHypothesis, pass_eq, firstOf, firstOf,
        Option.or_assoc, Option.or_assoc]

theorem shownIssue?_eq (issues : List Issue) :
    shownIssue? issues =
      (firstIssue? .error issues).or (firstIssue? .warn issues) := by
  simp only [shownIssue?, foldl_pass, Option.none_or]

theorem firstIssue?_eq_none_iff {severity : Severity}
    {issues : List Issue} :
    firstIssue? severity issues = none ↔
      ∀ issue ∈ issues, issue.severity ≠ severity := by
  simp [firstIssue?]

theorem shownIssue?_eq_none_iff {issues : List Issue} :
    shownIssue? issues = none ↔
      ∀ issue ∈ issues, issue.severity = .info := by
  rw [shownIssue?_eq, Option.or_eq_none_iff, firstIssue?_eq_none_iff,
    firstIssue?_eq_none_iff]
  constructor
  · rintro ⟨noError, noWarning⟩ issue member
    have notError := noError issue member
    have notWarning := noWarning issue member
    cases severity : issue.severity with
    | info => rfl
    | warn => exact absurd severity notWarning
    | error => exact absurd severity notError
  · intro informs
    constructor <;>
    · intro issue member
      rw [informs issue member]
      decide

theorem isOk_ofAnalysis_iff {analysis : Analysis} :
    (ofAnalysis analysis).isOk = true ↔
      ∀ issue ∈ analysis.issues, issue.severity = .info := by
  rw [← shownIssue?_eq_none_iff]
  unfold ofAnalysis
  cases shownIssue? analysis.issues <;> simp [isOk, ofIssue]

theorem mem_of_shownIssue? {issues : List Issue} {issue : Issue}
    (shown : shownIssue? issues = some issue) : issue ∈ issues := by
  rw [shownIssue?_eq, Option.or_eq_some_iff] at shown
  rcases shown with isError | ⟨_, isWarning⟩
  · exact List.mem_of_find?_eq_some isError
  · exact List.mem_of_find?_eq_some isWarning

/-- A report that needs attention stands at the line of one of the issues, or
at the first line when that issue has none. -/
theorem exists_issue_of_needsAttention {analysis : Analysis}
    {kind : FindingKind} {message suggestion : String} {location : Position}
    (unfavourable :
      ofAnalysis analysis =
        .needsAttention kind message location suggestion) :
    ∃ issue ∈ analysis.issues, location.line = issue.line.getD 1 := by
  unfold ofAnalysis at unfavourable
  split at unfavourable
  · rename_i issue shown
    cases unfavourable
    exact ⟨issue, mem_of_shownIssue? shown, rfl⟩
  · cases unfavourable

theorem metrics_of_ofAnalysis_eq_ok {analysis : Analysis}
    {message nextStep : String} {metrics : Metrics}
    (favourable : ofAnalysis analysis = .ok message metrics nextStep) :
    metrics =
      { estimatedTokenCount := analysis.estimatedTokenCount
        comparativeTokenCount := analysis.comparativeTokenCount
        keywordHitCount := analysis.keywordHitCount
        nonEmptyLineCount := analysis.nonEmptyLineCount } := by
  unfold ofAnalysis at favourable
  split at favourable
  · cases favourable
  · cases favourable
    rfl

theorem firstIssue?_filter (severity : Severity) {keeps : Issue → Bool}
    {issues : List Issue}
    (kept : ∀ issue ∈ issues, issue.severity = severity → keeps issue) :
    firstIssue? severity (issues.filter keeps) =
      firstIssue? severity issues := by
  induction issues with
  | nil => rfl
  | cons issue rest inductionHypothesis =>
      obtain ⟨keptHere, keptLater⟩ := List.forall_mem_cons.1 kept
      have sameLater := inductionHypothesis keptLater
      unfold firstIssue? at sameLater ⊢
      by_cases same : issue.severity = severity
      · rw [List.filter_cons_of_pos (keptHere same),
          List.find?_cons_of_pos (by simpa using same),
          List.find?_cons_of_pos (by simpa using same)]
      · rw [List.find?_cons_of_neg (by simpa using same), ← sameLater]
        cases keepsHere : keeps issue with
        | true =>
            rw [List.filter_cons_of_pos keepsHere,
              List.find?_cons_of_neg (by simpa using same)]
        | false =>
            rw [List.filter_cons_of_neg (by simp [keepsHere])]

theorem ofAnalysis_filter {analysis : Analysis} {keeps : Issue → Bool}
    (kept :
      ∀ issue ∈ analysis.issues, issue.severity ≠ .info → keeps issue) :
    ofAnalysis { analysis with issues := analysis.issues.filter keeps } =
      ofAnalysis analysis := by
  have sameError :=
    firstIssue?_filter .error fun issue member isError =>
      kept issue member (by rw [isError]; decide)
  have sameWarning :=
    firstIssue?_filter .warn fun issue member isWarning =>
      kept issue member (by rw [isWarning]; decide)
  simp only [ofAnalysis, shownIssue?_eq, sameError, sameWarning]

/-! ## Which issue is shown -/

/-- An issue is the first of a severity when it has the least index among
them. -/
structure IsFirst (severity : Severity) (issues : List Issue) (index : Nat)
    (issue : Issue) : Prop where
  stands : issues[index]? = some issue
  severe : issue.severity = severity
  earliest :
    ∀ earlier < index, ∀ passed,
      issues[earlier]? = some passed → passed.severity ≠ severity

/-- The issue that matters most: the first error or, in a list without errors,
the first warning. -/
def Leads (issues : List Issue) (index : Nat) (issue : Issue) : Prop :=
  IsFirst .error issues index issue ∨
    (∀ other ∈ issues, other.severity ≠ .error) ∧
      IsFirst .warn issues index issue

theorem firstIssue?_eq_some_iff {severity : Severity} {issues : List Issue}
    {issue : Issue} :
    firstIssue? severity issues = some issue ↔
      ∃ index, IsFirst severity issues index issue := by
  rw [firstIssue?, List.find?_eq_some_iff_getElem]
  constructor
  · rintro ⟨severe, index, inside, stands, earliest⟩
    refine ⟨index, ?_, of_decide_eq_true severe, ?_⟩
    · rw [List.getElem?_eq_getElem inside, stands]
    · intro earlier before passed passedStands
      obtain ⟨_, rfl⟩ := List.getElem?_eq_some_iff.1 passedStands
      simpa using earliest earlier before
  · rintro ⟨index, stands, severe, earliest⟩
    obtain ⟨inside, rfl⟩ := List.getElem?_eq_some_iff.1 stands
    refine ⟨by simpa using severe, index, inside, rfl, ?_⟩
    intro earlier before
    have other :=
      earliest earlier before _
        (List.getElem?_eq_getElem (Nat.lt_trans before inside))
    simpa using other

theorem shownIssue?_eq_some_iff {issues : List Issue} {issue : Issue} :
    shownIssue? issues = some issue ↔ ∃ index, Leads issues index issue := by
  rw [shownIssue?_eq, Option.or_eq_some_iff, firstIssue?_eq_none_iff,
    firstIssue?_eq_some_iff, firstIssue?_eq_some_iff]
  constructor
  · rintro (⟨index, isFirst⟩ | ⟨noError, index, isFirst⟩)
    · exact ⟨index, Or.inl isFirst⟩
    · exact ⟨index, Or.inr ⟨noError, isFirst⟩⟩
  · rintro ⟨index, isFirst | ⟨noError, isFirst⟩⟩
    · exact Or.inl ⟨index, isFirst⟩
    · exact Or.inr ⟨noError, index, isFirst⟩

theorem hasErrors_iff {analysis : Analysis} :
    analysis.hasErrors = true ↔
      ∃ issue, firstIssue? .error analysis.issues = some issue := by
  rw [← Option.isSome_iff_exists, firstIssue?, List.find?_isSome,
    Analysis.hasErrors, List.any_eq_true]

/-- An error is shown whatever warnings and information stand around it. -/
theorem shownIssue?_eq_of_firstIssue?_error {issues : List Issue}
    {issue : Issue} (found : firstIssue? .error issues = some issue) :
    shownIssue? issues = some issue := by
  rw [shownIssue?_eq, found, Option.some_or]

/-- Issue lists that agree but for information show the same issue. -/
theorem shownIssue?_eq_of_filter_eq {issues others : List Issue}
    (same :
      issues.filter (fun issue => issue.severity ≠ .info) =
        others.filter fun issue => issue.severity ≠ .info) :
    shownIssue? issues = shownIssue? others := by
  have sameFirst : ∀ severity : Severity, severity ≠ .info →
      firstIssue? severity issues = firstIssue? severity others := by
    intro severity serious
    have kept : ∀ issue : Issue, issue.severity = severity →
        decide (issue.severity ≠ .info) = true := by
      intro issue severe
      simpa [severe] using serious
    rw [← firstIssue?_filter severity fun issue _ => kept issue, same,
      firstIssue?_filter severity fun issue _ => kept issue]
  rw [shownIssue?_eq, shownIssue?_eq, sameFirst .error (by decide),
    sameFirst .warn (by decide)]

theorem ofAnalysis_eq_of_shownIssue?_eq {analysis : Analysis}
    {others : List Issue}
    (same : shownIssue? others = shownIssue? analysis.issues) :
    ofAnalysis { analysis with issues := others } = ofAnalysis analysis := by
  simp only [ofAnalysis, same]

theorem ofAnalysis_eq_ok {analysis : Analysis}
    (none : shownIssue? analysis.issues = none) :
    ofAnalysis analysis =
      .ok okMessage
        { estimatedTokenCount := analysis.estimatedTokenCount
          comparativeTokenCount := analysis.comparativeTokenCount
          keywordHitCount := analysis.keywordHitCount
          nonEmptyLineCount := analysis.nonEmptyLineCount }
        nextStep := by
  rw [ofAnalysis, none]

theorem ofAnalysis_eq_ofIssue {analysis : Analysis} {issue : Issue}
    (shown : shownIssue? analysis.issues = some issue) :
    ofAnalysis analysis = ofIssue issue := by
  rw [ofAnalysis, shown]

/-- The kind of finding that a report is about. -/
def kind? : Report → Option FindingKind
  | ok .. => none
  | needsAttention kind .. => some kind

theorem kind?_ofAnalysis_iff {analysis : Analysis} :
    (ofAnalysis analysis).kind? = some .parseError ↔
      analysis.hasErrors = true := by
  rw [hasErrors_iff]
  constructor
  · intro isError
    cases shown : shownIssue? analysis.issues with
    | none =>
        rw [ofAnalysis_eq_ok shown] at isError
        cases isError
    | some issue =>
        have severe : issue.severity = .error := by
          rw [ofAnalysis_eq_ofIssue shown] at isError
          apply Decidable.byContradiction
          intro other
          rw [ofIssue, if_neg other] at isError
          cases isError
        obtain ⟨index, leads⟩ := shownIssue?_eq_some_iff.1 shown
        rcases leads with isFirst | ⟨noError, isFirst⟩
        · exact ⟨issue, firstIssue?_eq_some_iff.2 ⟨index, isFirst⟩⟩
        · rw [isFirst.severe] at severe
          cases severe
  · rintro ⟨issue, found⟩
    have severe : issue.severity = .error := by
      simpa using List.find?_some found
    rw [ofAnalysis_eq_ofIssue (shownIssue?_eq_of_firstIssue?_error found),
      ofIssue, if_pos severe]
    rfl

/-- With an error, any edit of the list that leaves the first error the first
one leaves the report as it is. -/
theorem ofAnalysis_eq_of_firstIssue?_error {analysis : Analysis}
    {others : List Issue} (erroneous : analysis.hasErrors = true)
    (same :
      firstIssue? .error others = firstIssue? .error analysis.issues) :
    ofAnalysis { analysis with issues := others } = ofAnalysis analysis := by
  obtain ⟨issue, found⟩ := hasErrors_iff.1 erroneous
  apply ofAnalysis_eq_of_shownIssue?_eq
  rw [shownIssue?_eq_of_firstIssue?_error found,
    shownIssue?_eq_of_firstIssue?_error (same.trans found)]

/-- A report shows the issue that leads, and nothing else about the issues
matters. It is favourable exactly when there is neither an error nor a
warning, and then repeats the measures. Otherwise it is about the first error,
or about the first warning of an analysis without errors. Inserting or dropping
mere information changes nothing, and with an error neither does dropping the
warnings, keeping the errors only or appending more issues. -/
theorem report_shows_leading_issue (analysis : Analysis) :
    ((ofAnalysis analysis).isOk = true ↔
        ∀ issue ∈ analysis.issues,
          issue.severity ≠ .error ∧ issue.severity ≠ .warn) ∧
      ((ofAnalysis analysis).isOk = true →
        ofAnalysis analysis =
          .ok okMessage
            { estimatedTokenCount := analysis.estimatedTokenCount
              comparativeTokenCount := analysis.comparativeTokenCount
              keywordHitCount := analysis.keywordHitCount
              nonEmptyLineCount := analysis.nonEmptyLineCount }
            nextStep) ∧
      ((ofAnalysis analysis).isOk = false →
        ∃ index issue kind,
          Leads analysis.issues index issue ∧
            ofAnalysis analysis =
              .needsAttention kind issue.message ⟨issue.line.getD 1, 1⟩
                (issue.suggestion.getD fallbackSuggestion) ∧
            (kind = .parseError ↔ issue.severity = .error)) ∧
      (∀ others : List Issue,
        others.filter (fun issue => issue.severity ≠ .info) =
            analysis.issues.filter (fun issue => issue.severity ≠ .info) →
          ofAnalysis { analysis with issues := others } =
            ofAnalysis analysis) ∧
      (analysis.hasErrors = true →
        ofAnalysis
              { analysis with
                issues :=
                  analysis.issues.filter
                    fun issue => issue.severity ≠ .warn } =
            ofAnalysis analysis ∧
          ofAnalysis analysis.errorsOnly = ofAnalysis analysis ∧
          ∀ later : List Issue,
            ofAnalysis
                { analysis with issues := analysis.issues ++ later } =
              ofAnalysis analysis) := by
  refine ⟨?_, ?_, ?_, ?_, ?_⟩
  · rw [isOk_ofAnalysis_iff]
    refine forall_congr' fun issue => imp_congr_right fun _ => ?_
    cases issue.severity <;> decide
  · intro favourable
    exact ofAnalysis_eq_ok
      (shownIssue?_eq_none_iff.2 (isOk_ofAnalysis_iff.1 favourable))
  · intro unfavourable
    cases shown : shownIssue? analysis.issues with
    | none =>
        rw [ofAnalysis_eq_ok shown] at unfavourable
        cases unfavourable
    | some issue =>
        obtain ⟨index, leads⟩ := shownIssue?_eq_some_iff.1 shown
        refine ⟨index, issue, _, leads, ofAnalysis_eq_ofIssue shown, ?_⟩
        by_cases severe : issue.severity = .error <;> simp [severe]
  · intro others same
    exact ofAnalysis_eq_of_shownIssue?_eq (shownIssue?_eq_of_filter_eq same)
  · intro erroneous
    refine ⟨?_, ?_, ?_⟩
    · apply ofAnalysis_eq_of_firstIssue?_error erroneous
      refine firstIssue?_filter .error fun issue _ severe => ?_
      simp [severe]
    · apply ofAnalysis_eq_of_firstIssue?_error erroneous
      refine firstIssue?_filter .error fun issue _ severe => ?_
      simp [severe]
    · intro later
      obtain ⟨issue, found⟩ := hasErrors_iff.1 erroneous
      apply ofAnalysis_eq_of_firstIssue?_error erroneous
      rw [firstIssue?_append, found, Option.some_or]

/-- An error behind a warning, and information behind both. -/
theorem report_shows_leading_issue_late_error :
    isOk
          (ofAnalysis
            { issues :=
                [⟨.warn, "a", none, none⟩, ⟨.error, "b", some 5, none⟩] }) =
        false ∧
      ofAnalysis { issues := [⟨.error, "b", some 5, none⟩] } =
        ofAnalysis
          { issues :=
              [⟨.warn, "a", none, none⟩, ⟨.error, "b", some 5, none⟩] } ∧
      ofAnalysis
          { issues :=
              [⟨.warn, "a", none, none⟩, ⟨.error, "b", some 5, none⟩,
                ⟨.info, "c", none, none⟩] } =
        ofAnalysis
          { issues :=
              [⟨.warn, "a", none, none⟩, ⟨.error, "b", some 5, none⟩] } := by
  obtain ⟨favourable_iff, _, _, informed, edited⟩ :=
    report_shows_leading_issue
      { issues := [⟨.warn, "a", none, none⟩, ⟨.error, "b", some 5, none⟩] }
  refine ⟨?_, (edited (by decide)).2.1, informed _ (by decide)⟩
  rw [Bool.eq_false_iff, Ne, favourable_iff]
  decide

end Preflight.Report
