import Preflight.Proofs.CommandLine.Run
import Preflight.Proofs.Counted

/-!
# The output is one document

In the formats for programs the output of a check is one document and a line
feed behind it. The document gives back the analysis as far as it is shown, or
the report on the whole analysis. What else is asked for does not reach it.
-/

namespace Preflight.CommandLine

variable {surroundings : Surroundings} {options others : Options}
  {analyzer : Analyzer} {source : String}

theorem previewOutput_fst (isData : options.format ≠ .text)
    (source : String) : (previewOutput options source).1 = "" := by
  unfold previewOutput
  cases format : options.format with
  | text => exact absurd format isData
  | json => rfl
  | report => rfl

/-- In the formats for programs the output is what is written for the
result. -/
theorem output_eq_resultText
    (chosen : chooseAnalyzer surroundings options.settings = .ok analyzer)
    (read : readSource surroundings options.file = .ok source)
    (isData : options.format ≠ .text) :
    (check surroundings options).output =
      resultText surroundings options (analyzer.analyze source.toList) := by
  rw [output_of_read chosen read, previewOutput_fst isData, String.append_empty]

theorem resultText_json (isJson : options.format = .json)
    (analysis : Analysis) :
    resultText surroundings options analysis =
      (shown options analysis).write .pretty ++ "\n" := by
  rw [resultText, isJson]

theorem resultText_report (isReport : options.format = .report)
    (analysis : Analysis) :
    resultText surroundings options analysis =
      (Report.ofAnalysis analysis).write .pretty ++ "\n" := by
  rw [resultText, isReport]

theorem isCounted_shown {analysis : Analysis}
    (counted : analysis.IsCounted) (options : Options) :
    (shown options analysis).IsCounted := by
  unfold shown
  split
  · exact counted.errorsOnly
  · exact counted

/-- In the formats for programs a check that reaches the analysis writes one
document, which ends in a brace, and one line feed. With the format for
analyses the document is read back as the analysis, with its errors only if
only errors are asked for. With the format for reports it is read back as the
report on the whole analysis. Neither depends on anything else that is asked
for. The source has fewer characters than the greatest count, as every text in
memory has. -/
theorem output_is_one_document
    (chosen : chooseAnalyzer surroundings options.settings = .ok analyzer)
    (read : readSource surroundings options.file = .ok source)
    (inMemory : source.toList.length < maxCount) :
    (options.format = .json →
        ∃ document,
          (run surroundings (.check options)).output = document ++ "\n" ∧
            document.toList.getLast? = some '\x7d' ∧
            Analysis.read? document.toList =
              some
                (if options.errorsOnly then
                  { analyzer.analyze source.toList with
                    issues :=
                      (analyzer.analyze source.toList).issues.filter
                        fun issue => issue.severity = .error }
                else analyzer.analyze source.toList)) ∧
      (options.format = .report →
        ∃ document,
          (run surroundings (.check options)).output = document ++ "\n" ∧
            document.toList.getLast? = some '\x7d' ∧
            Report.read? document.toList =
              some (Report.ofAnalysis (analyzer.analyze source.toList))) ∧
      (options.format ≠ .text →
        ∀ others : Options,
          SameInput options others → others.format = options.format →
            others.errorsOnly = options.errorsOnly ∨
              options.format = .report →
            (run surroundings (.check others)).output =
              (run surroundings (.check options)).output) := by
  have counted := analyzer.isCounted_analyze inMemory
  have noSpace : ∀ c ∈ ([] : List Char), Json.isSpace c = true := by simp
  refine ⟨?_, ?_, ?_⟩
  · intro isJson
    have isData : options.format ≠ .text := by
      rw [isJson]
      decide
    refine ⟨(shown options (analyzer.analyze source.toList)).write .pretty,
      ?_, Json.getLast?_render_record _ _, ?_⟩
    · exact (output_eq_resultText chosen read isData).trans
        (resultText_json isJson _)
    · have readBack :=
        Analysis.read?_write (isCounted_shown counted options) .pretty noSpace
      rwa [List.append_nil] at readBack
  · intro isReport
    have isData : options.format ≠ .text := by
      rw [isReport]
      decide
    refine ⟨(Report.ofAnalysis (analyzer.analyze source.toList)).write
      .pretty, ?_, ?_, ?_⟩
    · exact (output_eq_resultText chosen read isData).trans
        (resultText_report isReport _)
    · rw [Report.write, Report.toJson_eq_record]
      exact Json.getLast?_render_record _ _
    · have readBack :=
        Report.read?_write (Report.isCounted_ofAnalysis counted) .pretty
          noSpace
      rwa [List.append_nil] at readBack
  · intro isData others same sameFormat sameIssues
    have otherIsData : others.format ≠ .text := by rwa [sameFormat]
    rw [run, run, output_eq_resultText chosen read isData]
    rw [output_eq_resultText (by rwa [same.settings]) (by rwa [same.file])
      otherIsData]
    cases format : options.format with
    | text => exact absurd format isData
    | json =>
        have sameErrorsOnly : others.errorsOnly = options.errorsOnly := by
          rcases sameIssues with same | isReport
          · exact same
          · rw [format] at isReport
            cases isReport
        rw [resultText_json format, resultText_json (sameFormat.trans format),
          shown, shown, sameErrorsOnly]
    | report =>
        rw [resultText_report format,
          resultText_report (sameFormat.trans format)]

/-- A tab on standard input, with its error only and with a preview asked
for. -/
theorem output_is_one_document_tab :
    (∃ document,
        (run (.ofInput "\tx")
              (.check
                { file := "-", settings := .defaults, format := .json
                  errorsOnly := true, simulate := true })).output =
            document ++ "\n" ∧
          document.toList.getLast? = some '\x7d' ∧
          Analysis.read? document.toList =
            some
              { Analyzer.standard.analyze "\tx".toList with
                issues := [LineRule.issue {} 1 .tab] }) ∧
      (run (.ofInput "\tx")
            (.check
              { file := "-", settings := .defaults, format := .json
                errorsOnly := true })).output =
        (run (.ofInput "\tx")
            (.check
              { file := "-", settings := .defaults, format := .json
                errorsOnly := true, simulate := true })).output := by
  have chosen :
      chooseAnalyzer (.ofInput "\tx") .defaults = .ok .standard := rfl
  have read : readSource (.ofInput "\tx") "-" = .ok "\tx" := rfl
  have inMemory : "\tx".toList.length < maxCount := by decide
  obtain ⟨asData, _, sameOutput⟩ :=
    @output_is_one_document (.ofInput "\tx")
      { file := "-", settings := .defaults, format := .json
        errorsOnly := true, simulate := true }
      .standard "\tx" chosen read inMemory
  refine ⟨?_, ?_⟩
  · obtain ⟨document, written, ends, readBack⟩ := asData rfl
    refine ⟨document, written, ends, readBack.trans ?_⟩
    have errors :
        (Analyzer.standard.analyze "\tx".toList).issues.filter
            (fun issue => issue.severity = .error) =
          [LineRule.issue {} 1 .tab] := by
      decide
    rw [if_pos rfl, errors]
  · exact sameOutput (by decide) _ ⟨rfl, rfl⟩ rfl (Or.inl rfl)

end Preflight.CommandLine
