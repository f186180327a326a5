import Preflight.Proofs.Json.Number
import Preflight.Proofs.Render
import Preflight.Proofs.Text.Stop
import Preflight.Proofs.Text.Word

/-!
# Text without colours loses nothing

The parts of an entry end at characters that they do not hold, and what comes
next is told by its first character: a line in parentheses or a colon, an
indented suggestion or another entry, an empty line in front of the footer. So
an analysis whose texts have no line feeds can be told from the text that is
written about it.
-/

namespace Preflight

open Text

/-! ## Numbers -/

/-- Numbers are told apart when no digit stands behind them. -/
theorem toString_append_stop_inj {stop : Char}
    (notDigit : stop.isDigit = false) {n m : Nat} {rest otherRest : List Char}
    (same :
      (toString n).toList ++ stop :: rest =
        (toString m).toList ++ stop :: otherRest) :
    n = m ∧ rest = otherRest := by
  obtain ⟨sameDigits, sameRest⟩ :=
    append_stop_inj (not_mem_toString notDigit n) (not_mem_toString notDigit m)
      same
  refine ⟨?_, sameRest⟩
  rw [Nat.toString_eq_repr, Nat.toString_eq_repr, Nat.toList_repr,
    Nat.toList_repr] at sameDigits
  rw [← Json.decimalValue_toDigits n, sameDigits, Json.decimalValue_toDigits]

/-! ## Entries -/

/-- An issue whose texts have no line feeds. -/
def Issue.IsSingleLine (issue : Issue) : Prop :=
  '\n' ∉ issue.message.toList ∧
    ∀ advice ∈ issue.suggestion, '\n' ∉ advice.toList

instance (issue : Issue) : Decidable issue.IsSingleLine :=
  inferInstanceAs (Decidable (_ ∧ _))

/-- No text in the list of issues has a line feed. -/
def Analysis.IsSingleLine (analysis : Analysis) : Prop :=
  ∀ issue ∈ analysis.issues, issue.IsSingleLine

namespace Style

/-- Where an issue is, as it is written behind the severity. -/
def placeText : Option Nat → List Char
  | some line => ' ' :: ("(line ".toList ++ ((toString line).toList ++ [')']))
  | none => []

/-- What to do about an issue, as it is written behind the message. -/
def adviceText : Option String → List Char
  | some advice => '\n' :: ' ' :: (" Suggestion: ".toList ++ advice.toList)
  | none => []

/-- What is written about an issue without colours. -/
def entryText (issue : Issue) : List Char :=
  issue.severity.label.toList ++
    (placeText issue.line ++
      (':' :: ' ' :: (issue.message.toList ++ adviceText issue.suggestion)))

/-- Entries, each with a line feed behind it, in front of a footer. -/
def entries (issues : List Issue) (footer : List Char) : List Char :=
  issues.foldr (fun issue later => entryText issue ++ '\n' :: later) footer

/-- What to do about an issue, as a style writes it behind the message. -/
def suggestionText (style : Style) : Option String → List Char
  | some advice =>
      '\n' :: ' ' :: ' ' ::
        ((style.label .bold "Suggestion:").toList ++ ' ' :: advice.toList)
  | none => []

/-- An entry in any style, part by part. -/
theorem toList_issueText_eq (style : Style) (issue : Issue) :
    (style.issueText issue).toList =
      (style.label (Ink.ofSeverity issue.severity)
          issue.severity.label).toList ++
        (placeText issue.line ++
          (':' :: ' ' ::
            (issue.message.toList ++
              style.suggestionText issue.suggestion))) := by
  obtain ⟨severity, message, line, suggestion⟩ := issue
  have opening : " (line ".toList = ' ' :: "(line ".toList := rfl
  have closing : ")".toList = [')'] := rfl
  have colon : ": ".toList = [':', ' '] := rfl
  have indent : "\n  ".toList = ['\n', ' ', ' '] := rfl
  have space : " ".toList = [' '] := rfl
  have nothing : "".toList = [] := rfl
  unfold issueText
  cases line <;> cases suggestion <;>
    simp only [String.toList_append, placeText, suggestionText, opening,
      closing, colon, indent, space, nothing, List.append_assoc,
      List.cons_append, List.nil_append, List.append_nil]

section Plain

variable {style : Style} (plain : style.colored = false)

include plain

theorem label_plain (ink : Ink) (text : String) :
    style.label ink text = text := by
  rw [label, plain]
  rfl

theorem suggestionText_plain (suggestion : Option String) :
    style.suggestionText suggestion = adviceText suggestion := by
  cases suggestion with
  | none => rfl
  | some advice =>
      rw [suggestionText, label_plain plain]
      rfl

theorem toList_issueText (issue : Issue) :
    (style.issueText issue).toList = entryText issue := by
  rw [toList_issueText_eq, label_plain plain, suggestionText_plain plain,
    entryText]

theorem toList_issuesText_append {issues : List Issue}
    (someIssue : issues ≠ []) (footer : List Char) :
    (style.issuesText issues).toList ++ footer = entries issues footer := by
  rw [style.toList_issuesText someIssue]
  clear someIssue
  induction issues with
  | nil => rfl
  | cons issue more inductionHypothesis =>
      rw [List.flatMap_cons, toList_issueText plain, List.append_assoc,
        List.append_assoc, inductionHypothesis]
      rfl

theorem exists_passLine_eq_cons :
    ∃ more, style.passLine.toList = 'P' :: more := by
  have starts : "PASS".toList = 'P' :: "ASS".toList := rfl
  rw [passLine, label_plain plain, String.toList_append, starts,
    List.cons_append]
  exact ⟨_, rfl⟩

end Plain

/-! ## What stands in front -/

/-- The severities are told by their first letters. -/
theorem label_append_inj {severity other : Severity}
    {rest otherRest : List Char}
    (same :
      severity.label.toList ++ rest = other.label.toList ++ otherRest) :
    severity = other ∧ rest = otherRest := by
  cases severity <;> cases other <;>
    simp [Severity.label] at same ⊢ <;> exact same

theorem exists_entryText_append (issue : Issue) (rest : List Char) :
    ∃ letter ∈ ['E', 'W', 'I'], ∃ more,
      entryText issue ++ rest = letter :: more := by
  obtain ⟨severity, message, line, suggestion⟩ := issue
  cases severity with
  | info =>
      have starts : Severity.info.label.toList = 'I' :: "NFO".toList := rfl
      rw [entryText, starts]
      exact ⟨'I', by decide, _, rfl⟩
  | warn =>
      have starts : Severity.warn.label.toList = 'W' :: "ARN".toList := rfl
      rw [entryText, starts]
      exact ⟨'W', by decide, _, rfl⟩
  | error =>
      have starts : Severity.error.label.toList = 'E' :: "RROR".toList := rfl
      rw [entryText, starts]
      exact ⟨'E', by decide, _, rfl⟩

/-- Entries start with a letter, and a footer starts with a line feed. -/
theorem head_entries {footer : List Char}
    (apart : ∀ c ∈ footer.head?, c = '\n') (issues : List Issue) :
    ∀ c ∈ (entries issues footer).head?, c ∈ ['E', 'W', 'I', '\n'] := by
  intro c starts
  cases issues with
  | nil =>
      rw [apart c starts]
      decide
  | cons issue more =>
      obtain ⟨letter, listed, others, same⟩ :=
        exists_entryText_append issue ('\n' :: entries more footer)
      rw [entries, List.foldr_cons] at starts
      rw [entries] at same
      rw [same] at starts
      cases starts
      exact List.mem_append_left ['\n'] listed

/-- A line in parentheses starts with a space, and nothing with the colon
behind it. -/
theorem placeText_append_inj {line other : Option Nat}
    {rest otherRest : List Char}
    (same :
      placeText line ++ ':' :: rest = placeText other ++ ':' :: otherRest) :
    line = other ∧ rest = otherRest := by
  cases line with
  | none =>
      cases other with
      | none => exact ⟨rfl, (List.cons.inj same).2⟩
      | some number => exact absurd (List.cons.inj same).1 (by decide)
  | some number =>
      cases other with
      | none => exact absurd (List.cons.inj same).1 (by decide)
      | some otherNumber =>
          simp only [placeText, List.cons_append, List.append_assoc] at same
          have inside := List.append_cancel_left (List.cons.inj same).2
          obtain ⟨sameNumber, sameRest⟩ :=
            toString_append_stop_inj (by decide) inside
          exact ⟨congrArg some sameNumber, (List.cons.inj sameRest).2⟩

/-- A suggestion is indented, and nothing else behind a message is. -/
theorem adviceText_append_inj {suggestion other : Option String}
    {message otherMessage rest otherRest : List Char}
    (singleLine : '\n' ∉ message)
    (adviceSingleLine : ∀ advice ∈ suggestion, '\n' ∉ advice.toList)
    (otherSingleLine : '\n' ∉ otherMessage)
    (otherAdviceSingleLine : ∀ advice ∈ other, '\n' ∉ advice.toList)
    (unindented : ∀ c ∈ rest.head?, c ≠ ' ')
    (otherUnindented : ∀ c ∈ otherRest.head?, c ≠ ' ')
    (same :
      message ++ (adviceText suggestion ++ '\n' :: rest) =
        otherMessage ++ (adviceText other ++ '\n' :: otherRest)) :
    message = otherMessage ∧ suggestion = other ∧ rest = otherRest := by
  cases suggestion with
  | none =>
      cases other with
      | none =>
          obtain ⟨sameMessage, sameRest⟩ :=
            append_stop_inj singleLine otherSingleLine same
          exact ⟨sameMessage, rfl, sameRest⟩
      | some advice =>
          obtain ⟨_, indented⟩ :=
            append_stop_inj singleLine otherSingleLine same
          rw [indented] at unindented
          exact absurd rfl (unindented ' ' rfl)
  | some advice =>
      cases other with
      | none =>
          obtain ⟨_, indented⟩ :=
            append_stop_inj singleLine otherSingleLine same
          rw [← indented] at otherUnindented
          exact absurd rfl (otherUnindented ' ' rfl)
      | some otherAdvice =>
          simp only [adviceText, List.cons_append, List.append_assoc] at same
          obtain ⟨sameMessage, sameAdvice⟩ :=
            append_stop_inj singleLine otherSingleLine same
          obtain ⟨sameText, sameRest⟩ :=
            append_stop_inj (adviceSingleLine advice rfl)
              (otherAdviceSingleLine otherAdvice rfl)
              (List.append_cancel_left (List.cons.inj sameAdvice).2)
          have sameSuggestion := String.toList_inj.1 sameText
          exact ⟨sameMessage, congrArg some sameSuggestion, sameRest⟩

theorem entryText_append_inj {issue other : Issue}
    {rest otherRest : List Char} (singleLine : issue.IsSingleLine)
    (otherSingleLine : other.IsSingleLine)
    (unindented : ∀ c ∈ rest.head?, c ≠ ' ')
    (otherUnindented : ∀ c ∈ otherRest.head?, c ≠ ' ')
    (same :
      entryText issue ++ '\n' :: rest = entryText other ++ '\n' :: otherRest) :
    issue = other ∧ rest = otherRest := by
  obtain ⟨severity, message, line, suggestion⟩ := issue
  obtain ⟨otherSeverity, otherMessage, otherLine, otherSuggestion⟩ := other
  simp only [entryText, List.append_assoc, List.cons_append] at same
  obtain ⟨sameSeverity, behindSeverity⟩ := label_append_inj same
  obtain ⟨sameLine, behindLine⟩ := placeText_append_inj behindSeverity
  obtain ⟨sameMessage, sameSuggestion, sameRest⟩ :=
    adviceText_append_inj singleLine.1 singleLine.2 otherSingleLine.1
      otherSingleLine.2 unindented otherUnindented
      (List.cons.inj behindLine).2
  have sameText : message = otherMessage := String.toList_inj.1 sameMessage
  have sameAdvice : suggestion = otherSuggestion := sameSuggestion
  exact ⟨by rw [sameSeverity, sameText, sameLine, sameAdvice], sameRest⟩

/-- Entries are told one by one, and the footer from another entry. -/
theorem entries_inj {issues others : List Issue}
    {footer otherFooter : List Char}
    (singleLine : ∀ issue ∈ issues, issue.IsSingleLine)
    (othersSingleLine : ∀ issue ∈ others, issue.IsSingleLine)
    (apart : ∀ c ∈ footer.head?, c = '\n')
    (otherApart : ∀ c ∈ otherFooter.head?, c = '\n')
    (same : entries issues footer = entries others otherFooter) :
    issues = others ∧ footer = otherFooter := by
  have noLetter {letter : Char} (listed : letter ∈ ['E', 'W', 'I']) :
      letter ≠ '\n' := by
    rintro rfl
    exact absurd listed (by decide)
  have noSpace {text : List Char}
      (starts : ∀ c ∈ text.head?, c ∈ ['E', 'W', 'I', '\n']) :
      ∀ c ∈ text.head?, c ≠ ' ' := by
    rintro c first rfl
    exact absurd (starts ' ' first) (by decide)
  induction issues generalizing others with
  | nil =>
      cases others with
      | nil => exact ⟨rfl, same⟩
      | cons other more =>
          obtain ⟨letter, listed, _, starts⟩ :=
            exists_entryText_append other ('\n' :: entries more otherFooter)
          have footerStarts : footer = letter :: _ := same.trans starts
          rw [footerStarts] at apart
          exact absurd (apart letter rfl) (noLetter listed)
  | cons issue more inductionHypothesis =>
      cases others with
      | nil =>
          obtain ⟨letter, listed, _, starts⟩ :=
            exists_entryText_append issue ('\n' :: entries more footer)
          have footerStarts : otherFooter = letter :: _ :=
            same.symm.trans starts
          rw [footerStarts] at otherApart
          exact absurd (otherApart letter rfl) (noLetter listed)
      | cons other others =>
          obtain ⟨here, later⟩ := List.forall_mem_cons.1 singleLine
          obtain ⟨otherHere, otherLater⟩ :=
            List.forall_mem_cons.1 othersSingleLine
          obtain ⟨sameIssue, sameRest⟩ :=
            entryText_append_inj here otherHere
              (noSpace (head_entries apart more))
              (noSpace (head_entries otherApart others)) same
          obtain ⟨sameMore, sameFooter⟩ :=
            inductionHypothesis later otherLater sameRest
          exact ⟨by rw [sameIssue, sameMore], sameFooter⟩

section Plain

variable {style : Style} (plain : style.colored = false)

include plain

/-- The line for no issues does not start like an entry. -/
theorem passLine_prefix_iff {issues : List Issue} {footer : List Char} :
    style.passLine.toList <+: (style.issuesText issues).toList ++ footer ↔
      issues = [] := by
  constructor
  · intro starts
    cases issues with
    | nil => rfl
    | cons issue more =>
        obtain ⟨rest, same⟩ := starts
        obtain ⟨letter, listed, others, entry⟩ :=
          exists_entryText_append issue ('\n' :: entries more footer)
        obtain ⟨behind, passLine⟩ := exists_passLine_eq_cons plain
        rw [toList_issuesText_append plain (List.cons_ne_nil issue more),
          passLine] at same
        have sameLetter := (List.cons.inj (same.trans entry)).1
        rw [← sameLetter] at listed
        exact absurd listed (by decide)
  · rintro rfl
    exact List.prefix_append _ _

theorem issuesText_append_inj {issues others : List Issue}
    {footer otherFooter : List Char}
    (singleLine : ∀ issue ∈ issues, issue.IsSingleLine)
    (othersSingleLine : ∀ issue ∈ others, issue.IsSingleLine)
    (apart : ∀ c ∈ footer.head?, c = '\n')
    (otherApart : ∀ c ∈ otherFooter.head?, c = '\n')
    (same :
      (style.issuesText issues).toList ++ footer =
        (style.issuesText others).toList ++ otherFooter) :
    issues = others ∧ footer = otherFooter := by
  by_cases noIssues : issues = []
  · have starts :
        style.passLine.toList <+: (style.issuesText issues).toList ++ footer :=
      (passLine_prefix_iff plain).2 noIssues
    rw [same] at starts
    have noOthers := (passLine_prefix_iff plain).1 starts
    rw [noIssues, noOthers] at same
    exact ⟨by rw [noIssues, noOthers], List.append_cancel_left same⟩
  · have someOthers : others ≠ [] := by
      intro noOthers
      have starts :
          style.passLine.toList <+:
            (style.issuesText others).toList ++ otherFooter :=
        (passLine_prefix_iff plain).2 noOthers
      rw [← same] at starts
      exact noIssues ((passLine_prefix_iff plain).1 starts)
    rw [toList_issuesText_append plain noIssues,
      toList_issuesText_append plain someOthers] at same
    exact entries_inj singleLine othersSingleLine apart otherApart same

end Plain

/-! ## The footer -/

/-- How many issues there are of each severity, as the footer says. -/
def summaryText (errors warnings informations : Nat) : String :=
  "\n" ++ toString errors ++ " error(s), " ++ toString warnings ++
    " warning(s), " ++ toString informations ++ " info\n"

/-- The measures, as the footer says behind the word for the first of them. -/
def measuresText (analysis : Analysis) : List Char :=
  (toString analysis.estimatedTokenCount).toList ++
    ' ' :: (" shorthand hits: ".toList ++
      ((toString analysis.keywordHitCount).toList ++
        ' ' :: (" comparative tokens: ".toList ++
          ((toString analysis.comparativeTokenCount).toList ++
            ' ' :: (" non-empty lines: ".toList ++
              ((toString analysis.nonEmptyLineCount).toList ++
                ['\n']))))))

theorem toList_footerText (analysis : Analysis) :
    (footerText analysis).toList =
      (summaryText (analysis.count .error) (analysis.count .warn)
          (analysis.count .info)).toList ++
        ("tokens: ".toList ++ measuresText analysis) := by
  have hits :
      "  shorthand hits: ".toList = ' ' :: " shorthand hits: ".toList := rfl
  have comparative :
      "  comparative tokens: ".toList =
        ' ' :: " comparative tokens: ".toList := rfl
  have lineCount :
      "  non-empty lines: ".toList = ' ' :: " non-empty lines: ".toList := rfl
  have feed : "\n".toList = ['\n'] := rfl
  unfold footerText measuresText summaryText
  simp only [String.toList_append, List.append_assoc, hits, comparative,
    lineCount, feed, List.cons_append]

theorem measuresText_inj {analysis other : Analysis}
    (same : measuresText analysis = measuresText other) :
    analysis.estimatedTokenCount = other.estimatedTokenCount ∧
      analysis.keywordHitCount = other.keywordHitCount ∧
      analysis.comparativeTokenCount = other.comparativeTokenCount ∧
      analysis.nonEmptyLineCount = other.nonEmptyLineCount := by
  obtain ⟨sameTokens, hits⟩ := toString_append_stop_inj (by decide) same
  obtain ⟨sameHits, comparative⟩ :=
    toString_append_stop_inj (by decide) (List.append_cancel_left hits)
  obtain ⟨sameComparative, lineCount⟩ :=
    toString_append_stop_inj (by decide) (List.append_cancel_left comparative)
  obtain ⟨sameLines, _⟩ :=
    toString_append_stop_inj (by decide) (List.append_cancel_left lineCount)
  exact ⟨sameTokens, sameHits, sameComparative, sameLines⟩

theorem count_add_count_add_count (analysis : Analysis) :
    analysis.count .error + analysis.count .warn + analysis.count .info =
      analysis.issues.length := by
  unfold Analysis.count
  induction analysis.issues with
  | nil => rfl
  | cons issue more inductionHypothesis =>
      simp only [List.countP_cons, List.length_cons]
      cases issue.severity <;> simp <;> omega

end Style

/-! ## The texts of an analyzer -/

theorem LineRule.isSingleLine_issue (settings : Settings) (number : Nat)
    (rule : LineRule) : (rule.issue settings number).IsSingleLine := by
  have width : '\n' ∉ (toString settings.indentWidth).toList :=
    not_mem_toString (by decide) settings.indentWidth
  constructor
  · cases rule with
    | tab => simp [issue]
    | indentation =>
        exact not_mem_append (not_mem_append (by simp) width) (by simp)
    | length => simp [issue]
  · intro advice suggested
    cases rule with
    | tab =>
        cases suggested
        simp
    | indentation =>
        cases suggested
        exact not_mem_append (not_mem_append (by simp) width) (by simp)
    | length =>
        cases suggested
        simp

theorem Rule.isSingleLine_missingEntrypoint {name : String}
    (identifier : isIdentifier name.toList = true) :
    (missingEntrypoint name).IsSingleLine := by
  have noFeed : '\n' ∉ name.toList := by
    intro listed
    have inWord := (isWordChar_of_isIdentifier identifier).2 '\n' listed
    exact absurd inWord (by decide)
  constructor
  · exact not_mem_append (not_mem_append (by simp) noFeed) (by simp)
  · intro advice suggested
    cases suggested
    exact not_mem_append (not_mem_append (by simp) noFeed) (by simp)

theorem Rule.isSingleLine_longformKeywords :
    longformKeywords.IsSingleLine := by
  constructor
  · simp [longformKeywords]
  · intro advice suggested
    cases suggested
    simp

theorem Imbalance.isSingleLine_issue {text : List Char}
    {imbalance : Imbalance}
    (reported : Delimiter.scan text = some imbalance) :
    imbalance.issue.IsSingleLine := by
  have notInWords :
      ∀ kind,
        '\n' ∉ (message ⟨kind, ' ', Position.beforeText⟩).toList ∧
          '\n' ∉ (suggestion ⟨kind, ' ', Position.beforeText⟩).toList := by
    intro kind
    cases kind <;> simp [message, suggestion]
  obtain ⟨inMessage, inSuggestion⟩ :=
    Imbalance.not_mem_texts (by decide) notInWords reported
  refine ⟨inMessage, ?_⟩
  intro advice suggested
  cases suggested
  exact inSuggestion

/-- No rule writes a line feed. -/
theorem Analyzer.isSingleLine_analyze (analyzer : Analyzer)
    (text : List Char) : (analyzer.analyze text).IsSingleLine := by
  intro issue member
  rw [issues_analyze, List.mem_append, List.mem_append, List.mem_append]
    at member
  rcases member with (line | declaration | keyword) | delimiter
  · obtain ⟨⟨number, rule⟩, _, rfl⟩ := List.mem_map.1 line
    exact rule.isSingleLine_issue analyzer.settings number
  · rw [Rule.entrypointIssues] at declaration
    split at declaration
    · cases declaration
    · rw [List.mem_singleton.1 declaration]
      exact Rule.isSingleLine_missingEntrypoint analyzer.entrypoint_isIdentifier
  · rw [Rule.keywordIssues] at keyword
    split at keyword
    · rw [List.mem_singleton.1 keyword]
      exact Rule.isSingleLine_longformKeywords
    · cases keyword
  · obtain ⟨imbalance, reported, rfl⟩ := List.mem_map.1 delimiter
    exact Imbalance.isSingleLine_issue (Option.mem_toList.1 reported)

/-! ## The text as a whole -/

namespace Style

theorem toList_analysisText_footer (analysis : Analysis) :
    (analysisText ⟨false, true⟩ analysis).toList =
      (issuesText ⟨false, true⟩ analysis.issues).toList ++
        (footerText analysis).toList := by
  rw [analysisText, String.toList_append]
  rfl

theorem toList_analysisText_bare (analysis : Analysis) :
    (analysisText ⟨false, false⟩ analysis).toList =
      (issuesText ⟨false, false⟩ analysis.issues).toList ++ [] := by
  rw [analysisText, String.toList_append]
  rfl

theorem head_footerText (analysis : Analysis) :
    ∀ c ∈ (footerText analysis).toList.head?, c = '\n' := by
  have feed : "\n".toList = ['\n'] := rfl
  intro c starts
  rw [toList_footerText, summaryText] at starts
  simp only [String.toList_append, feed, List.cons_append, List.head?_cons]
    at starts
  exact (Option.some.inj starts).symm

theorem analysis_eq_of_text_eq {analysis other : Analysis}
    (singleLine : analysis.IsSingleLine)
    (otherSingleLine : other.IsSingleLine)
    (same :
      analysisText ⟨false, true⟩ analysis =
        analysisText ⟨false, true⟩ other) :
    analysis = other := by
  have sameText := congrArg String.toList same
  rw [toList_analysisText_footer, toList_analysisText_footer] at sameText
  obtain ⟨sameIssues, sameFooter⟩ :=
    issuesText_append_inj rfl singleLine otherSingleLine
      (head_footerText analysis) (head_footerText other) sameText
  rw [toList_footerText, toList_footerText, Analysis.count, Analysis.count,
    Analysis.count, sameIssues] at sameFooter
  have sameMeasures :=
    List.append_cancel_left (List.append_cancel_left sameFooter)
  obtain ⟨sameTokens, sameHits, sameComparative, sameLines⟩ :=
    measuresText_inj sameMeasures
  cases analysis
  cases other
  simp only at sameIssues sameTokens sameHits sameComparative sameLines
  rw [sameIssues, sameTokens, sameHits, sameComparative, sameLines]

theorem issues_eq_of_text_eq {analysis other : Analysis}
    (singleLine : analysis.IsSingleLine)
    (otherSingleLine : other.IsSingleLine)
    (same :
      analysisText ⟨false, false⟩ analysis =
        analysisText ⟨false, false⟩ other) :
    analysis.issues = other.issues := by
  have sameText := congrArg String.toList same
  rw [toList_analysisText_bare, toList_analysisText_bare] at sameText
  have nothing : ∀ c ∈ ([] : List Char).head?, c = '\n' := by
    intro c starts
    cases starts
  exact
    (issuesText_append_inj rfl singleLine otherSingleLine nothing nothing
      sameText).1

theorem passLine_prefix_analysisText_iff {style : Style}
    (plain : style.colored = false) (analysis : Analysis) :
    style.passLine.toList <+: (style.analysisText analysis).toList ↔
      analysis.issues = [] := by
  rw [analysisText, String.toList_append]
  exact passLine_prefix_iff plain

theorem analysisText_eq_append (analysis : Analysis) (colored : Bool) :
    ∃ measures,
      analysisText ⟨colored, true⟩ analysis =
        issuesText ⟨colored, true⟩ analysis.issues ++
          summaryText (analysis.count .error) (analysis.count .warn)
            (analysis.count .info) ++ measures := by
  refine ⟨String.ofList ("tokens: ".toList ++ measuresText analysis), ?_⟩
  apply String.toList_inj.1
  rw [analysisText, String.toList_append, String.toList_append,
    String.toList_append, String.toList_ofList, List.append_assoc,
    ← toList_footerText]
  rfl

end Style

/-- Without colours, two analyses whose texts have no line feeds are written
alike only if they are the same, and without the footer only if their issues
are. An analyzer writes no line feeds into its issues. The line for no issues
stands in front of the text exactly when there are none, and the numbers in the
summary add up to the number of issues. -/
theorem analysisText_without_colors_lossless :
    (∀ analysis other : Analysis,
        analysis.IsSingleLine → other.IsSingleLine →
          (Style.analysisText ⟨false, true⟩ analysis =
              Style.analysisText ⟨false, true⟩ other →
            analysis = other) ∧
          (Style.analysisText ⟨false, false⟩ analysis =
              Style.analysisText ⟨false, false⟩ other →
            analysis.issues = other.issues)) ∧
      (∀ (analyzer : Analyzer) (text : List Char),
        (analyzer.analyze text).IsSingleLine) ∧
      (∀ (style : Style) (analysis : Analysis), style.colored = false →
        (style.passLine.toList <+: (style.analysisText analysis).toList ↔
          analysis.issues = [])) ∧
      ∀ analysis : Analysis,
        ∃ errors warnings informations measures,
          Style.analysisText ⟨false, true⟩ analysis =
              Style.issuesText ⟨false, true⟩ analysis.issues ++
                Style.summaryText errors warnings informations ++
                measures ∧
            errors + warnings + informations = analysis.issues.length := by
  refine ⟨?_, ?_, ?_, ?_⟩
  · intro analysis other singleLine otherSingleLine
    constructor
    · exact Style.analysis_eq_of_text_eq singleLine otherSingleLine
    · exact Style.issues_eq_of_text_eq singleLine otherSingleLine
  · intro analyzer text
    exact analyzer.isSingleLine_analyze text
  · intro style analysis plain
    exact Style.passLine_prefix_analysisText_iff plain analysis
  · intro analysis
    obtain ⟨measures, written⟩ := Style.analysisText_eq_append analysis false
    exact ⟨_, _, _, measures, written, Style.count_add_count_add_count analysis⟩

/-- A line that the message only imitates, and an analysis without issues. -/
theorem analysisText_without_colors_lossless_imitation :
    Style.analysisText ⟨false, true⟩
          { issues := [{ severity := .info, message := " (line 3): x" }] } ≠
        Style.analysisText ⟨false, true⟩
          { issues := [{ severity := .info, message := "x", line := some 3 }] } ∧
      Style.analysisText ⟨false, false⟩
          { issues := [{ severity := .info, message := " (line 3): x" }] } ≠
        Style.analysisText ⟨false, false⟩
          { issues := [{ severity := .info, message := "x", line := some 3 }] } ∧
      (Style.passLine ⟨false, true⟩).toList <+:
        (Style.analysisText ⟨false, true⟩ {}).toList := by
  obtain ⟨told, _, passes, _⟩ := analysisText_without_colors_lossless
  have imitating :
      ({ issues := [{ severity := .info, message := " (line 3): x" }] } :
        Analysis).IsSingleLine := by
    intro issue member
    rw [List.mem_singleton.1 member]
    decide
  have placed :
      ({ issues :=
          [{ severity := .info, message := "x", line := some 3 }] } :
        Analysis).IsSingleLine := by
    intro issue member
    rw [List.mem_singleton.1 member]
    decide
  obtain ⟨withFooter, withoutFooter⟩ := told _ _ imitating placed
  refine ⟨?_, ?_, (passes ⟨false, true⟩ {} rfl).2 rfl⟩
  · intro same
    exact absurd (withFooter same) (by decide)
  · intro same
    exact absurd (withoutFooter same) (by decide)

end Preflight
