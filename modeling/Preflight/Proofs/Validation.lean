import Preflight.Proofs.Analyzer
import Preflight.Proofs.Binary64.Value
import Preflight.Proofs.CommandLine.Run
import Preflight.Proofs.Rule.Fault
import Preflight.Proofs.Settings.Discovery
import Preflight.Proofs.Text.Name

/-!
# Validation rules out every fault

Settings are accepted exactly when each of the five is what the rules need.
Accepted settings cause no fault on any text, and settings that nobody checked
cause one just where a rule divides by zero. Wherever settings come from, they
have been accepted already, and checking them again changes nothing.
-/

namespace Preflight

open File (Path System)

namespace Analyzer

theorem exists_ofSettings_iff {settings : Settings} :
    (∃ analyzer, ofSettings settings = .ok analyzer) ↔
      settings.maxLineLength ≠ 0 ∧ settings.indentWidth ≠ 0 ∧
        settings.charsPerToken ≠ 0 ∧
        (settings.comparativeTokenRatio.isFinite = true ∧
          0 < settings.comparativeTokenRatio.toRat) ∧
        Text.IsName settings.entrypoint.toList := by
  rw [← Binary64.isPositive_iff, ← Text.isIdentifier_iff,
    ← Settings.flaw?_eq_none_iff]
  constructor
  · rintro ⟨analyzer, accepted⟩
    rw [← settings_of_ofSettings accepted]
    exact analyzer.sound
  · intro sound
    cases outcome : ofSettings settings with
    | ok analyzer =>
        exact ⟨analyzer, rfl⟩
    | error flaw =>
        rw [ofSettings_eq_error_iff, sound] at outcome
        cases outcome

theorem ofSettings_settings (analyzer : Analyzer) :
    ofSettings analyzer.settings = .ok analyzer := by
  cases outcome : ofSettings analyzer.settings with
  | ok other =>
      have same := settings_of_ofSettings outcome
      cases analyzer
      cases other
      cases same
      rfl
  | error flaw =>
      rw [ofSettings_eq_error_iff, analyzer.sound] at outcome
      cases outcome

/-- Only its own settings make an analyzer. -/
theorem exists_and_ofSettings_iff {Given : Settings → Prop}
    {analyzer : Analyzer} :
    (∃ settings, Given settings ∧ ofSettings settings = .ok analyzer) ↔
      Given analyzer.settings ∧
        ofSettings analyzer.settings = .ok analyzer := by
  constructor
  · rintro ⟨settings, given, accepted⟩
    rw [settings_of_ofSettings accepted]
    exact ⟨given, accepted⟩
  · rintro ⟨given, accepted⟩
    exact ⟨analyzer.settings, given, accepted⟩

theorem analyzeWith_of_ofSettings {settings : Settings} {analyzer : Analyzer}
    (accepted : ofSettings settings = .ok analyzer) (text : List Char) :
    analyzeWith settings text = .ok (analyzer.analyze text) := by
  rw [← settings_of_ofSettings accepted]
  exact analyzer.analyzeWith_settings text

end Analyzer

namespace CommandLine

/-- Settings that were chosen for a check pass any further validation. -/
theorem chooseAnalyzer_bind_ofSettings (surroundings : Surroundings)
    (source : SettingsSource) (refuse : Settings.Flaw → Failure) :
    ((chooseAnalyzer surroundings source).bind fun analyzer =>
        (Analyzer.ofSettings analyzer.settings).mapError refuse) =
      chooseAnalyzer surroundings source := by
  cases chooseAnalyzer surroundings source with
  | error failure =>
      rfl
  | ok analyzer =>
      rw [Except.bind, analyzer.ofSettings_settings]
      rfl

end CommandLine

/-- Settings are accepted exactly when the three counts are not zero, the ratio
is a finite number above zero and the entrypoint is a name. Then the analysis
of any text divides by no zero. Without validation the line rules fault exactly
if the steps have no width and some line is not blank, and the document rules
exactly if tokens have no length. A file, discovery and a check give the
settings that are spelt for them if these are accepted, and nothing else. So
whatever they come to is accepted when it is validated once more, and that
cannot fail. -/
theorem validation_rules_out_faults :
    (∀ settings : Settings,
        ((∃ analyzer, Analyzer.ofSettings settings = .ok analyzer) ↔
            settings.maxLineLength ≠ 0 ∧ settings.indentWidth ≠ 0 ∧
              settings.charsPerToken ≠ 0 ∧
              (settings.comparativeTokenRatio.isFinite = true ∧
                0 < settings.comparativeTokenRatio.toRat) ∧
              Text.IsName settings.entrypoint.toList) ∧
          (∀ analyzer, Analyzer.ofSettings settings = .ok analyzer →
            ∀ text, analyzeWith settings text = .ok (analyzer.analyze text)) ∧
          (∀ lines fault,
            Rule.lineIssues settings lines = .error fault ↔
              fault = .remainderByZero ∧ settings.indentWidth = 0 ∧
                ∃ line ∈ lines, Text.isBlank line = false) ∧
          ∀ text fault,
            Rule.documentFindings settings text = .error fault ↔
              fault = .quotientByZero ∧ settings.charsPerToken = 0) ∧
      (∀ system path analyzer,
        Settings.load system path = .ok analyzer ↔
          Settings.Spells system path analyzer.settings ∧
            Analyzer.ofSettings analyzer.settings = .ok analyzer) ∧
      (∀ system directory path analyzer,
        Settings.discoverAndLoad system directory =
            .ok (some (path, analyzer)) ↔
          Settings.Discovered system directory path ∧
            Settings.Spells system path analyzer.settings ∧
            Analyzer.ofSettings analyzer.settings = .ok analyzer) ∧
      ∀ (surroundings : CommandLine.Surroundings)
          (source : CommandLine.SettingsSource),
        (∀ analyzer,
            CommandLine.chooseAnalyzer surroundings source = .ok analyzer ↔
              CommandLine.SettingsGiven surroundings source
                  analyzer.settings ∧
                Analyzer.ofSettings analyzer.settings = .ok analyzer) ∧
          ∀ refuse : Settings.Flaw → CommandLine.Failure,
            ((CommandLine.chooseAnalyzer surroundings source).bind
                fun analyzer =>
                  (Analyzer.ofSettings analyzer.settings).mapError refuse) =
              CommandLine.chooseAnalyzer surroundings source := by
  refine ⟨fun settings => ⟨Analyzer.exists_ofSettings_iff, ?_, ?_, ?_⟩, ?_, ?_,
    fun surroundings source => ⟨?_, ?_⟩⟩
  · intro analyzer accepted text
    exact Analyzer.analyzeWith_of_ofSettings accepted text
  · intro lines fault
    exact Rule.lineIssuesFrom_eq_error_iff
  · intro text fault
    exact Rule.documentFindings_eq_error_iff
  · intro system path analyzer
    rw [Settings.load_eq_ok_iff, Analyzer.exists_and_ofSettings_iff]
  · intro system directory path analyzer
    rw [Settings.discoverAndLoad_eq_ok_some_iff, Settings.load_eq_ok_iff,
      Analyzer.exists_and_ofSettings_iff]
  · intro analyzer
    rw [CommandLine.chooseAnalyzer_eq_ok_iff,
      Analyzer.exists_and_ofSettings_iff]
  · exact CommandLine.chooseAnalyzer_bind_ofSettings surroundings source

/-- Steps of no width with and without a line that is not blank, tokens of no
length, an infinite ratio, and a file that spells the defaults. -/
theorem validation_rules_out_faults_zero_width :
    Rule.lineIssues { indentWidth := 0 } ["\t".toList, " x".toList] =
        .error .remainderByZero ∧
      (∀ fault,
        Rule.lineIssues { indentWidth := 0 } ["\t".toList] ≠ .error fault) ∧
      Rule.documentFindings { charsPerToken := 0, entrypoint := "(" } [] =
        .error .quotientByZero ∧
      (¬ ∃ analyzer,
        Analyzer.ofSettings { comparativeTokenRatio := .infinity } =
          .ok analyzer) ∧
      analyzeWith {} "\tx".toList =
        .ok (Analyzer.standard.analyze "\tx".toList) ∧
      Settings.load (.ofTexts [("a", "\x7b\x7d")]) (Path.ofString "a") =
        .ok .standard := by
  obtain ⟨each, file, _, _⟩ := validation_rules_out_faults
  obtain ⟨_, _, lineFault, _⟩ := each { indentWidth := 0 }
  obtain ⟨_, _, _, documentFault⟩ :=
    each { charsPerToken := 0, entrypoint := "(" }
  obtain ⟨infinite, _⟩ := each { comparativeTokenRatio := .infinity }
  obtain ⟨_, noFault, _⟩ := each {}
  refine ⟨?_, ?_, ?_, ?_, noFault .standard rfl _, ?_⟩
  · exact (lineFault _ _).2 ⟨rfl, rfl, by decide⟩
  · intro fault faults
    exact absurd ((lineFault _ fault).1 faults).2.2 (by decide)
  · exact (documentFault _ _).2 ⟨rfl, rfl⟩
  · intro accepted
    obtain ⟨_, _, _, ⟨finite, _⟩, _⟩ := infinite.1 accepted
    exact absurd finite (by decide)
  · exact (file _ _ _).2 ⟨⟨"\x7b\x7d", rfl, rfl⟩, rfl⟩

end Preflight
