import Preflight.Proofs.CommandLine.Document
import Preflight.Proofs.Render

/-!
# What an exit code tells

The exit code tells a failure from an analysis with errors and from one without
them. It depends on the source and on the settings only, and the output in
each format tells the same.
-/

namespace Preflight

theorem Analysis.hasErrors_iff_mem {analysis : Analysis} :
    analysis.hasErrors = true ↔
      ∃ issue ∈ analysis.issues, issue.severity = .error := by
  simp [hasErrors]

theorem Analysis.errorsOnly_issues_ne_nil_iff {analysis : Analysis} :
    analysis.errorsOnly.issues ≠ [] ↔ analysis.hasErrors = true := by
  rw [hasErrors_iff_mem, errorsOnly, Ne, List.filter_eq_nil_iff]
  simp

namespace CommandLine

variable {surroundings : Surroundings} {options : Options}

/-! ## Failures -/

theorem exitCode_eq_two_iff (surroundings : Surroundings)
    (options : Options) :
    (check surroundings options).exitCode = 2 ↔
      (∃ failure, SettingsFail surroundings options.settings failure) ∨
        ∃ failure, SourceFails surroundings options.file failure := by
  rcases check_cases surroundings options with
    ⟨fails, failed, _⟩ | ⟨analyzer, source, chosen, read⟩
  · exact iff_of_true failed fails
  · refine iff_of_false (exitCode_ne_two_of_read chosen read) ?_
    rintro (⟨failure, fails⟩ | ⟨failure, fails⟩)
    · rw [chooseAnalyzer_eq_error_iff.2 fails] at chosen
      cases chosen
    · rw [readSource_eq_error_iff.2 fails] at read
      cases read

theorem output_eq_empty
    (failed : (check surroundings options).exitCode = 2) :
    (check surroundings options).output = "" := by
  rcases check_cases surroundings options with
    ⟨_, _, empty⟩ | ⟨analyzer, source, chosen, read⟩
  · exact empty
  · exact absurd failed (exitCode_ne_two_of_read chosen read)

theorem exists_read_of_exitCode_ne_two
    (analysed : (check surroundings options).exitCode ≠ 2) :
    ∃ analyzer source,
      chooseAnalyzer surroundings options.settings = .ok analyzer ∧
        readSource surroundings options.file = .ok source := by
  rcases check_cases surroundings options with ⟨_, failed, _⟩ | read
  · exact absurd failed analysed
  · exact read

theorem exitCode_eq_of_sameInput {others : Options}
    (same : SameInput options others) :
    (check surroundings others).exitCode =
      (check surroundings options).exitCode := by
  rcases check_cases surroundings options with
    ⟨fails, failed, _⟩ | ⟨analyzer, source, chosen, read⟩
  · rw [failed, exitCode_eq_two_iff, same.file, same.settings]
    exact fails
  · rw [exitCode_of_read chosen read,
      exitCode_of_read (by rwa [same.settings]) (by rwa [same.file])]

/-! ## Errors in each format -/

/-- An output that is a report on an error. -/
def ReportsError (output : String) : Prop :=
  ∃ document,
    Json.parse? output.toList = some document ∧
      Json.fields? ["error_kind"] document =
        some [some (Json.text "heuristic_parse_error")]

/-- An output that is an analysis with at least one issue. -/
def ListsIssues (output : String) : Prop :=
  ∃ document issue more,
    Json.parse? output.toList = some document ∧
      Json.fields? ["issues"] document =
        some [some (.array (issue :: more))]

section Formats

variable {analyzer : Analyzer} {source : String}
  (chosen : chooseAnalyzer surroundings options.settings = .ok analyzer)
  (read : readSource surroundings options.file = .ok source)

include chosen read

theorem exitCode_eq_one_iff :
    (check surroundings options).exitCode = 1 ↔
      (analyzer.analyze source.toList).hasErrors = true := by
  rw [exitCode_of_read chosen read]
  split <;> simp_all

theorem exitCode_eq_zero_iff :
    (check surroundings options).exitCode = 0 ↔
      (analyzer.analyze source.toList).hasErrors = false := by
  rw [exitCode_of_read chosen read]
  split <;> simp_all

/-- The report is about an error when there is one. -/
theorem reportsError_iff (isReport : options.format = .report) :
    ReportsError (check surroundings options).output ↔
      (analyzer.analyze source.toList).hasErrors = true := by
  have isData : options.format ≠ .text := by
    rw [isReport]
    decide
  have parsed :
      Json.parse? (check surroundings options).output.toList =
        some (Report.ofAnalysis (analyzer.analyze source.toList)).toJson := by
    rw [output_eq_resultText chosen read isData, resultText_report isReport,
      String.toList_append]
    exact Report.parse?_write _ .pretty (by simp [Json.isSpace])
  rw [← Report.kind?_ofAnalysis_iff, ReportsError, parsed]
  simp only [Option.some.injEq, exists_eq_left',
    Report.fields?_errorKind_toJson, List.cons.injEq, and_true]
  cases (Report.ofAnalysis (analyzer.analyze source.toList)).kind? with
  | none => simp
  | some kind => cases kind <;> simp [Json.text, FindingKind.name]

theorem listsIssues_iff (isJson : options.format = .json)
    (errorsOnly : options.errorsOnly = true) :
    ListsIssues (check surroundings options).output ↔
      (analyzer.analyze source.toList).hasErrors = true := by
  have isData : options.format ≠ .text := by
    rw [isJson]
    decide
  have parsed :
      Json.parse? (check surroundings options).output.toList =
        some (analyzer.analyze source.toList).errorsOnly.toJson := by
    rw [output_eq_resultText chosen read isData, resultText_json isJson,
      shown, if_pos errorsOnly, String.toList_append]
    exact Analysis.parse?_write _ .pretty (by simp [Json.isSpace])
  rw [← Analysis.errorsOnly_issues_ne_nil_iff, ListsIssues, parsed]
  constructor
  · rintro ⟨_, issue, more, ⟨rfl⟩, listed⟩ none
    rw [Analysis.fields?_issues_toJson, none] at listed
    simp at listed
  · intro someIssue
    obtain ⟨issue, more, listed⟩ := List.exists_cons_of_ne_nil someIssue
    refine ⟨_, issue.toJson, more.map Issue.toJson, rfl, ?_⟩
    rw [Analysis.fields?_issues_toJson, listed]
    rfl

theorem output_text (isText : options.format = .text)
    (errorsOnly : options.errorsOnly = true) :
    (check surroundings options).output =
      (outputStyle surroundings options).issuesText
          (analyzer.analyze source.toList).errorsOnly.issues ++
        (Style.footerText (analyzer.analyze source.toList).errorsOnly ++
          (previewOutput options source).1) := by
  rw [output_of_read chosen read, resultText, isText, shown,
    if_pos errorsOnly, ← String.append_assoc]
  rfl

/-- With errors only, the line for no issues is at the start of the output
when there is no error, and otherwise it is not. -/
theorem text_starts_with_passLine_iff (isText : options.format = .text)
    (errorsOnly : options.errorsOnly = true) :
    (outputStyle surroundings options).passLine.toList <+:
        (check surroundings options).output.toList ↔
      (analyzer.analyze source.toList).hasErrors = false := by
  rw [output_text chosen read isText errorsOnly, String.toList_append,
    ← Bool.not_eq_true, ← Analysis.errorsOnly_issues_ne_nil_iff,
    Decidable.not_not]
  cases listed : (analyzer.analyze source.toList).errorsOnly.issues with
  | nil => exact iff_of_true (List.prefix_append _ _) rfl
  | cons issue more =>
      have severe : issue.severity = .error := by
        have kept : issue ∈
            (analyzer.analyze source.toList).errorsOnly.issues := by
          rw [listed]
          exact List.mem_cons_self
        simpa using (List.mem_filter.1 kept).2
      exact iff_of_false
        (Style.not_passLine_prefix _ severe more _) (List.cons_ne_nil _ _)

/-- Without a preview, whose text is taken from the source, the line for no
issues is nowhere in the output when there is an error. -/
theorem text_contains_passLine_iff (isText : options.format = .text)
    (errorsOnly : options.errorsOnly = true)
    (noPreview : options.simulate = false) :
    (outputStyle surroundings options).passLine.toList <:+:
        (check surroundings options).output.toList ↔
      (analyzer.analyze source.toList).hasErrors = false := by
  constructor
  · intro occurs
    rw [← Bool.not_eq_true, ← Analysis.errorsOnly_issues_ne_nil_iff]
    intro someError
    have preview : Unmarked (previewOutput options source).1 := by
      simp only [previewOutput, isText, noPreview]
      exact (by decide : Unmarked "")
    have unmarked : Unmarked (check surroundings options).output := by
      rw [output_text chosen read isText errorsOnly]
      simp only [unmarked_append, Style.unmarked_footerText, preview,
        and_true]
      apply Style.unmarked_issuesText _ someError
      intro issue kept
      obtain ⟨member, severe⟩ := List.mem_filter.1 kept
      exact Analyzer.unmarked_error member (by simpa using severe) _
    exact unmarked (occurs.subset (Style.mem_passLine _))
  · intro noError
    exact ((text_starts_with_passLine_iff chosen read isText errorsOnly).2
      noError).isInfix

end Formats

/-! ## The exit code as a whole -/

/-- A check ends with exit code 2 exactly when it has no settings or no source;
then it writes nothing to standard output, and without settings it reports
that, whether the source can be read or not. Otherwise the exit code is 1 if
the analysis has an error and 0 if it has none. Checks with the same source and
the same settings have the same exit code. If that is not 2, it is 1 exactly
when the report is about an error, when issues are listed with errors only, and
when the line for no issues is not written with errors only. A preview may
write any line behind the issues, so with one the line is looked for at the
start of the output. -/
theorem exit_code_tells_errors (surroundings : Surroundings)
    (options : Options) :
    ((run surroundings (.check options)).exitCode = 2 ↔
        (∃ failure, SettingsFail surroundings options.settings failure) ∨
          ∃ failure, SourceFails surroundings options.file failure) ∧
      ((run surroundings (.check options)).exitCode = 2 →
        (run surroundings (.check options)).output = "") ∧
      (∀ failure, SettingsFail surroundings options.settings failure →
        ∃ log,
          (run surroundings (.check options)).errors =
            logText surroundings options log ++
              failure.line surroundings.wording) ∧
      (∀ analyzer source,
        chooseAnalyzer surroundings options.settings = .ok analyzer →
          readSource surroundings options.file = .ok source →
          ((run surroundings (.check options)).exitCode = 1 ↔
              ∃ issue ∈ (analyzer.analyze source.toList).issues,
                issue.severity = .error) ∧
            ((run surroundings (.check options)).exitCode = 0 ↔
              ∀ issue ∈ (analyzer.analyze source.toList).issues,
                issue.severity ≠ .error)) ∧
      ∀ others, SameInput options others →
        (run surroundings (.check others)).exitCode =
            (run surroundings (.check options)).exitCode ∧
          ((run surroundings (.check options)).exitCode ≠ 2 →
            (others.format = .report →
              ((run surroundings (.check options)).exitCode = 1 ↔
                ReportsError (run surroundings (.check others)).output)) ∧
            (others.format = .json → others.errorsOnly = true →
              ((run surroundings (.check options)).exitCode = 1 ↔
                ListsIssues (run surroundings (.check others)).output)) ∧
            (others.format = .text → others.errorsOnly = true →
              ((run surroundings (.check options)).exitCode = 1 ↔
                  ¬ (outputStyle surroundings others).passLine.toList <+:
                    (run surroundings (.check others)).output.toList) ∧
                (others.simulate = false →
                  ((run surroundings (.check options)).exitCode = 1 ↔
                    ¬ (outputStyle surroundings others).passLine.toList <:+:
                      (run surroundings
                        (.check others)).output.toList)))) := by
  simp only [run]
  refine ⟨exitCode_eq_two_iff surroundings options, output_eq_empty, ?_, ?_,
    ?_⟩
  · intro failure fails
    obtain ⟨log, outcome⟩ := check_of_settingsFail fails
    rw [outcome]
    exact ⟨log, rfl⟩
  · intro analyzer source chosen read
    refine ⟨?_, ?_⟩
    · rw [exitCode_eq_one_iff chosen read, Analysis.hasErrors_iff_mem]
    · rw [exitCode_eq_zero_iff chosen read, ← Bool.not_eq_true,
        Analysis.hasErrors_iff_mem]
      simp
  · intro others same
    refine ⟨exitCode_eq_of_sameInput same, ?_⟩
    intro analysed
    obtain ⟨analyzer, source, chosen, read⟩ :=
      exists_read_of_exitCode_ne_two analysed
    rw [exitCode_eq_one_iff chosen read]
    rw [← same.settings] at chosen
    rw [← same.file] at read
    refine ⟨?_, ?_, ?_⟩
    · intro isReport
      exact (reportsError_iff chosen read isReport).symm
    · intro isJson errorsOnly
      exact (listsIssues_iff chosen read isJson errorsOnly).symm
    · intro isText errorsOnly
      refine ⟨?_, ?_⟩
      · rw [text_starts_with_passLine_iff chosen read isText errorsOnly,
          Bool.not_eq_false]
      · intro noPreview
        rw [text_contains_passLine_iff chosen read isText errorsOnly
          noPreview, Bool.not_eq_false]

/-- A tab on standard input, and a settings file that is absent like the
source. -/
theorem exit_code_tells_errors_tab :
    (run (.ofInput "\tx")
          (.check { file := "-", settings := .defaults })).exitCode = 1 ∧
      ReportsError
        (run (.ofInput "\tx")
          (.check
            { file := "-", settings := .defaults, format := .report
              errorsOnly := true })).output ∧
      ∃ log,
        (run (.ofInput "")
              (.check { file := "a", settings := .file "b" })).errors =
          logText (.ofInput "") { file := "a", settings := .file "b" } log ++
            ("Error: failed to load config b: Failed to read config file: " ++
              "No such file or directory (os error 2): " ++
              "No such file or directory (os error 2)\n") := by
  obtain ⟨_, _, _, analysed, others⟩ :=
    exit_code_tells_errors (.ofInput "\tx")
      { file := "-", settings := .defaults }
  have erroneous :
      (run (.ofInput "\tx")
        (.check { file := "-", settings := .defaults })).exitCode = 1 :=
    (analysed .standard "\tx" rfl rfl).1.2 (by decide)
  refine ⟨erroneous, ?_, ?_⟩
  · obtain ⟨_, formats⟩ :=
      others
        { file := "-", settings := .defaults, format := .report
          errorsOnly := true }
        ⟨rfl, rfl⟩
    have notFailed :
        (run (.ofInput "\tx")
          (.check { file := "-", settings := .defaults })).exitCode ≠ 2 := by
      rw [erroneous]
      decide
    exact ((formats notFailed).1 rfl).1 erroneous
  · obtain ⟨_, _, settingsFirst, _⟩ :=
      exit_code_tells_errors (.ofInput "")
        { file := "a", settings := .file "b" }
    exact settingsFirst _ (.file (.unreadable rfl))

end CommandLine

end Preflight
