import Preflight.CommandLine.Run
import Preflight.Proofs.Settings.File

/-!
# What a run comes to

A check ends in one of three ways: it has no settings, or it has settings and
no source, or it has both and its analysis decides the exit code and the
output. In the first two cases nothing is written to standard output.
-/

namespace Preflight.CommandLine

open File (Path ReadFailure)

variable {surroundings : Surroundings} {options : Options}

/-- Surroundings with a text on standard input and nothing else, at the
beginning of 1970. -/
def Surroundings.ofInput (text : String) : Surroundings :=
  { system :=
      { isFile := fun _ => false
        read := fun _ => .error .notFound }
    workingDirectory := Path.ofString "/"
    input := .ok text
    environment := fun _ => none
    terminal := false
    errorTerminal := false
    clock := fun _ => .first
    wording := .plain }

/-- Options that ask for the same source and the same settings. -/
structure SameInput (options others : Options) : Prop where
  file : others.file = options.file
  settings : others.settings = options.settings

/-! ## The two kinds of failure -/

/-- Why there are no settings. -/
inductive SettingsFail (surroundings : Surroundings) :
    SettingsSource → Failure → Prop
  | file {path : String} {error : Settings.LoadError} :
      Settings.Refused surroundings.system (Path.ofString path) error →
      SettingsFail surroundings (.file path) (.settings (some path) error)
  | directory {failure : ReadFailure} :
      surroundings.directoryFailure = some failure →
      SettingsFail surroundings .discovered (.directory failure)
  | discovered {path : Path} {error : Settings.LoadError} :
      surroundings.directoryFailure = none →
      Settings.Discovered surroundings.system
        surroundings.workingDirectory path →
      Settings.Refused surroundings.system path error →
      SettingsFail surroundings .discovered (.settings none error)

/-- Why there is no source. -/
inductive SourceFails (surroundings : Surroundings) :
    String → Failure → Prop
  | input {failure : ReadFailure} :
      surroundings.input = .error failure →
      SourceFails surroundings "-" (.input failure)
  | file {file : String} {failure : ReadFailure} :
      file ≠ "-" →
      surroundings.system.read (Path.ofString file) = .error failure →
      SourceFails surroundings file (.source file failure)

theorem chooseAnalyzer_eq_error_iff {source : SettingsSource}
    {failure : Failure} :
    chooseAnalyzer surroundings source = .error failure ↔
      SettingsFail surroundings source failure := by
  constructor
  · intro failed
    cases source with
    | defaults => cases failed
    | file path =>
        obtain ⟨error, refused, rfl⟩ := mapError_eq_error_iff.1 failed
        exact SettingsFail.file (Settings.load_eq_error_iff.1 refused)
    | discovered =>
        simp only [chooseAnalyzer] at failed
        split at failed
        · rename_i unknown
          cases failed
          exact SettingsFail.directory unknown
        · rename_i known
          split at failed
          · rename_i error refused
            cases failed
            obtain ⟨path, discovered, reason⟩ :=
              Settings.discoverAndLoad_eq_error_iff.1 refused
            exact SettingsFail.discovered known discovered reason
          · cases failed
          · cases failed
  · intro fails
    cases fails with
    | file refused =>
        exact mapError_eq_error_iff.2
          ⟨_, Settings.load_eq_error_iff.2 refused, rfl⟩
    | directory unknown => simp only [chooseAnalyzer, unknown]
    | discovered known discovered refused =>
        have failed :=
          Settings.discoverAndLoad_eq_error_iff.2 ⟨_, discovered, refused⟩
        simp only [chooseAnalyzer, known, failed]

theorem readSource_eq_error_iff {file : String} {failure : Failure} :
    readSource surroundings file = .error failure ↔
      SourceFails surroundings file failure := by
  constructor
  · intro failed
    unfold readSource at failed
    split at failed
    · rename_i isInput
      subst isInput
      obtain ⟨cause, unread, rfl⟩ := mapError_eq_error_iff.1 failed
      exact SourceFails.input unread
    · rename_i isFile
      obtain ⟨cause, unread, rfl⟩ := mapError_eq_error_iff.1 failed
      exact SourceFails.file isFile unread
  · intro fails
    cases fails with
    | input unread =>
        rw [readSource, if_pos rfl]
        exact mapError_eq_error_iff.2 ⟨_, unread, rfl⟩
    | file isFile unread =>
        rw [readSource, if_neg isFile]
        exact mapError_eq_error_iff.2 ⟨_, unread, rfl⟩

/-! ## Settings that are given -/

/-- The settings that a check is given, be they sound or not. -/
inductive SettingsGiven (surroundings : Surroundings) :
    SettingsSource → Settings → Prop
  | defaults : SettingsGiven surroundings .defaults {}
  | file {path : String} {settings : Settings} :
      Settings.Spells surroundings.system (Path.ofString path) settings →
      SettingsGiven surroundings (.file path) settings
  | discovered {path : Path} {settings : Settings} :
      surroundings.directoryFailure = none →
      Settings.Discovered surroundings.system
        surroundings.workingDirectory path →
      Settings.Spells surroundings.system path settings →
      SettingsGiven surroundings .discovered settings
  | undiscovered :
      surroundings.directoryFailure = none →
      (∀ candidate ∈ Settings.candidates surroundings.workingDirectory,
        surroundings.system.isFile candidate = false) →
      SettingsGiven surroundings .discovered {}

/-- A check has an analyzer when it is given settings that are sound. -/
theorem chooseAnalyzer_eq_ok_iff {source : SettingsSource}
    {analyzer : Analyzer} :
    chooseAnalyzer surroundings source = .ok analyzer ↔
      ∃ settings, SettingsGiven surroundings source settings ∧
        Analyzer.ofSettings settings = .ok analyzer := by
  constructor
  · intro chosen
    cases source with
    | defaults =>
        cases chosen
        exact ⟨{}, SettingsGiven.defaults, rfl⟩
    | file path =>
        obtain ⟨settings, spelt, accepted⟩ :=
          Settings.load_eq_ok_iff.1 (mapError_eq_ok_iff.1 chosen)
        exact ⟨settings, SettingsGiven.file spelt, accepted⟩
    | discovered =>
        simp only [chooseAnalyzer] at chosen
        split at chosen
        · cases chosen
        · rename_i known
          split at chosen
          · cases chosen
          · rename_i path loaded found
            cases chosen
            obtain ⟨discovered, read⟩ :=
              Settings.discoverAndLoad_eq_ok_some_iff.1 found
            obtain ⟨settings, spelt, accepted⟩ :=
              Settings.load_eq_ok_iff.1 read
            exact ⟨settings,
              SettingsGiven.discovered known discovered spelt, accepted⟩
          · rename_i nothing
            cases chosen
            exact ⟨{}, SettingsGiven.undiscovered known
              (Settings.discoverAndLoad_eq_ok_none_iff.1 nothing), rfl⟩
  · rintro ⟨settings, given, accepted⟩
    cases given with
    | defaults =>
        cases accepted
        rfl
    | file spelt =>
        exact mapError_eq_ok_iff.2
          (Settings.load_eq_ok_iff.2 ⟨settings, spelt, accepted⟩)
    | discovered known discovered spelt =>
        have found := Settings.discoverAndLoad_eq_ok_some_iff.2
          ⟨discovered, Settings.load_eq_ok_iff.2 ⟨settings, spelt, accepted⟩⟩
        simp only [chooseAnalyzer, known, found]
    | undiscovered known missing =>
        cases accepted
        have nothing := Settings.discoverAndLoad_eq_ok_none_iff.2 missing
        simp only [chooseAnalyzer, known, nothing]
        rfl

/-! ## The three ends of a check -/

theorem check_of_settingsFail {failure : Failure}
    (fails : SettingsFail surroundings options.settings failure) :
    ∃ log,
      check surroundings options =
        { exitCode := 2
          errors :=
            logText surroundings options log ++
              failure.line surroundings.wording } := by
  refine ⟨chooseLog surroundings options.settings, ?_⟩
  simp only [check, chooseAnalyzer_eq_error_iff.2 fails]

theorem check_of_sourceFails {analyzer : Analyzer} {failure : Failure}
    (chosen : chooseAnalyzer surroundings options.settings = .ok analyzer)
    (fails : SourceFails surroundings options.file failure) :
    ∃ log,
      check surroundings options =
        { exitCode := 2
          errors :=
            logText surroundings options log ++
              failure.line surroundings.wording } := by
  refine ⟨chooseLog surroundings options.settings ++
    settingsLog analyzer.settings, ?_⟩
  simp only [check, chosen, readSource_eq_error_iff.2 fails]

section Analysed

variable {analyzer : Analyzer} {source : String}
  (chosen : chooseAnalyzer surroundings options.settings = .ok analyzer)
  (read : readSource surroundings options.file = .ok source)

include chosen read

theorem exitCode_of_read :
    (check surroundings options).exitCode =
      if (analyzer.analyze source.toList).hasErrors then 1 else 0 := by
  simp only [check, chosen, read]

theorem output_of_read :
    (check surroundings options).output =
      resultText surroundings options (analyzer.analyze source.toList) ++
        (previewOutput options source).1 := by
  simp only [check, chosen, read]

end Analysed

/-- A check fails, and then writes nothing to standard output, or it has both
settings and a source. -/
theorem check_cases (surroundings : Surroundings) (options : Options) :
    (((∃ failure, SettingsFail surroundings options.settings failure) ∨
          ∃ failure, SourceFails surroundings options.file failure) ∧
        (check surroundings options).exitCode = 2 ∧
        (check surroundings options).output = "") ∨
      ∃ analyzer source,
        chooseAnalyzer surroundings options.settings = .ok analyzer ∧
          readSource surroundings options.file = .ok source := by
  cases chosen : chooseAnalyzer surroundings options.settings with
  | error failure =>
      have fails := chooseAnalyzer_eq_error_iff.1 chosen
      obtain ⟨log, outcome⟩ := check_of_settingsFail fails
      rw [outcome]
      exact Or.inl ⟨Or.inl ⟨failure, fails⟩, rfl, rfl⟩
  | ok analyzer =>
      cases read : readSource surroundings options.file with
      | error failure =>
          have fails := readSource_eq_error_iff.1 read
          obtain ⟨log, outcome⟩ := check_of_sourceFails chosen fails
          rw [outcome]
          exact Or.inl ⟨Or.inr ⟨failure, fails⟩, rfl, rfl⟩
      | ok source => exact Or.inr ⟨analyzer, source, rfl, rfl⟩

theorem exitCode_ne_two_of_read {analyzer : Analyzer} {source : String}
    (chosen : chooseAnalyzer surroundings options.settings = .ok analyzer)
    (read : readSource surroundings options.file = .ok source) :
    (check surroundings options).exitCode ≠ 2 := by
  rw [exitCode_of_read chosen read]
  split <;> decide

end Preflight.CommandLine
