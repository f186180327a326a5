import Preflight.File.Tree
import Preflight.Proofs.CommandLine.Arguments
import Preflight.Proofs.CommandLine.Run
import Preflight.Proofs.File.Spelt
import Preflight.Proofs.Settings.Discovery

/-!
# Runs without a search

A command line that says where the settings come from keeps the search for a
settings file from running. Then the answer depends on the source and, if there
is one, on the settings file that is named, and on no other file; the time at
which it is given shows in the log only. A command line that leaves it to the
search has the result of one that asks for what the search finds, if the search
can begin.
-/

namespace Preflight.CommandLine

open File (Path System)

/-- Two surroundings in which a command line finds the same source and, if it
names a settings file, the same settings file, or fails to read them for the
same reason. All other files may differ, and so may the working directory and
the time. -/
structure Alike (arguments : List String)
    (surroundings others : Surroundings) : Prop where
  /-- The runs are of one program, whose open texts are worded in one way. -/
  wording : others.wording = surroundings.wording
  environment : others.environment = surroundings.environment
  terminal : others.terminal = surroundings.terminal
  errorTerminal : others.errorTerminal = surroundings.errorTerminal
  input : Gives arguments (.file "-") → others.input = surroundings.input
  source : ∀ file, Gives arguments (.file file) → file ≠ "-" →
    others.system.read (Path.ofString file) =
      surroundings.system.read (Path.ofString file)
  config : ∀ path, Gives arguments (.value .config path.toList) →
    others.system.read (Path.ofString path) =
      surroundings.system.read (Path.ofString path)

/-- The same exit code and the same text on standard output. -/
structure SameResult (outcome other : Outcome) : Prop where
  exitCode : other.exitCode = outcome.exitCode
  output : other.output = outcome.output

/-- The one command line says what the other does, and in addition where the
settings come from. -/
def Adds (source : SettingsSource) (arguments others : List String) : Prop :=
  readArguments others =
    (readArguments arguments).map (Request.withSource source)

/-- The same surroundings at another time. -/
def Surroundings.withClock (surroundings : Surroundings)
    (clock : Nat → Moment) : Surroundings :=
  { surroundings with clock }

variable {surroundings others : Surroundings} {options : Options}

/-! ## The same result -/

/-- Checks have the same result if they come to the same analyzer, or both to
none, and to the same source, and write analyses and previews alike. -/
theorem sameResult_check {more : Options}
    (sameAnalyzer : ∀ analyzer,
      chooseAnalyzer others more.settings = .ok analyzer ↔
        chooseAnalyzer surroundings options.settings = .ok analyzer)
    (sameSource :
      readSource others more.file = readSource surroundings options.file)
    (sameText : ∀ analysis,
      resultText others more analysis =
        resultText surroundings options analysis)
    (samePreview : previewOutput more = previewOutput options) :
    SameResult (check surroundings options) (check others more) := by
  cases chosen : chooseAnalyzer surroundings options.settings with
  | error failure =>
      cases chosenToo : chooseAnalyzer others more.settings with
      | error failureToo =>
          simp only [check, chosen, chosenToo]
          exact ⟨rfl, rfl⟩
      | ok analyzer =>
          have succeeded := (sameAnalyzer analyzer).1 chosenToo
          rw [chosen] at succeeded
          cases succeeded
  | ok analyzer =>
      have chosenToo := (sameAnalyzer analyzer).2 chosen
      cases read : readSource surroundings options.file with
      | error failure =>
          rw [read] at sameSource
          simp only [check, chosen, chosenToo, read, sameSource]
          exact ⟨rfl, rfl⟩
      | ok source =>
          rw [read] at sameSource
          refine ⟨?_, ?_⟩
          · rw [exitCode_of_read chosen read,
              exitCode_of_read chosenToo sameSource]
          · rw [output_of_read chosen read,
              output_of_read chosenToo sameSource, sameText, samePreview]

/-- Another time shows in the log only. -/
theorem sameResult_answer_withClock (surroundings : Surroundings)
    (clock : Nat → Moment) (arguments : List String) :
    SameResult (answer surroundings arguments)
      (answer (surroundings.withClock clock) arguments) := by
  unfold answer
  cases readArguments arguments with
  | error error =>
      exact ⟨rfl, rfl⟩
  | ok request =>
      cases request with
      | information information =>
          exact ⟨rfl, rfl⟩
      | check options =>
          exact sameResult_check (fun _ => Iff.rfl) rfl (fun _ => rfl) rfl

/-! ## Surroundings that differ elsewhere -/

theorem chooseLog_of_said (said : options.settings ≠ .discovered) :
    chooseLog surroundings options.settings = [] := by
  cases source : options.settings with
  | discovered =>
      exact absurd source said
  | defaults =>
      rfl
  | file path =>
      rfl

section Alike

variable {arguments : List String}
  (alike : Alike arguments surroundings others)

include alike

theorem Alike.logText_eq (log : List Log.Entry) :
    logText others options log =
      logText (surroundings.withClock others.clock) options log := by
  simp only [logText, logFilter, logHasColors, alike.environment,
    alike.errorTerminal]
  rfl

theorem Alike.resultText_eq (analysis : Analysis) :
    resultText others options analysis =
      resultText surroundings options analysis := by
  simp only [resultText, outputStyle, hasColors, alike.environment,
    alike.terminal]

section Check

variable (read : readArguments arguments = .ok (.check options))

include read

theorem Alike.readSource_eq :
    readSource others options.file =
      readSource surroundings options.file := by
  have given : Gives arguments (.file options.file) :=
    ((gives_of_readArguments read).1 options.file).2 rfl
  unfold readSource
  by_cases isInput : options.file = "-"
  · rw [isInput] at given
    rw [if_pos isInput, if_pos isInput, alike.input given]
  · rw [if_neg isInput, if_neg isInput, alike.source _ given isInput]

variable (said : options.settings ≠ .discovered)

include said

theorem Alike.chooseAnalyzer_eq :
    chooseAnalyzer others options.settings =
      chooseAnalyzer surroundings options.settings := by
  cases source : options.settings with
  | discovered =>
      exact absurd source said
  | defaults =>
      rfl
  | file path =>
      have given : Gives arguments (.value .config path.toList) := by
        rw [(gives_of_readArguments read).2.2, source, String.ofList_toList]
      rw [chooseAnalyzer, chooseAnalyzer,
        Settings.load_congr (alike.config path given)]

/-- A check without a search sees its surroundings through its settings, its
source, the environment, the terminals, the wording and the clock. -/
theorem Alike.check_eq :
    check others options =
      check (surroundings.withClock others.clock) options := by
  have sameWording :
      (surroundings.withClock others.clock).wording = others.wording :=
    alike.wording.symm
  have sameAnalyzer :
      chooseAnalyzer (surroundings.withClock others.clock) options.settings =
        chooseAnalyzer others options.settings :=
    (alike.chooseAnalyzer_eq read said).symm
  have sameSource :
      readSource (surroundings.withClock others.clock) options.file =
        readSource others options.file :=
    (alike.readSource_eq read).symm
  have sameText (analysis : Analysis) :
      resultText (surroundings.withClock others.clock) options analysis =
        resultText others options analysis :=
    (alike.resultText_eq analysis).symm
  simp only [check, chooseLog_of_said said, sameWording, sameAnalyzer,
    sameSource, alike.logText_eq, sameText]

end Check

end Alike

theorem answer_eq_of_alike {arguments : List String}
    (said : ∀ options, readArguments arguments = .ok (.check options) →
      options.settings ≠ .discovered)
    (alike : Alike arguments surroundings others) :
    answer others arguments =
      answer (surroundings.withClock others.clock) arguments := by
  have sameWording :
      (surroundings.withClock others.clock).wording = others.wording :=
    alike.wording.symm
  unfold answer
  cases read : readArguments arguments with
  | error error =>
      simp only [sameWording]
  | ok request =>
      cases request with
      | information information =>
          simp only [run, sameWording]
      | check options =>
          exact alike.check_eq read (said options read)

/-! ## Settings from elsewhere -/

theorem chooseAnalyzer_of_undiscovered
    (known : surroundings.directoryFailure = none)
    (missing : ∀ candidate ∈
        Settings.candidates surroundings.workingDirectory,
      surroundings.system.isFile candidate = false) :
    chooseAnalyzer surroundings .discovered = .ok .standard := by
  simp only [chooseAnalyzer, known,
    Settings.discoverAndLoad_eq_ok_none_iff.2 missing]

theorem chooseAnalyzer_of_discovered {path : Path} {analyzer : Analyzer}
    (known : surroundings.directoryFailure = none)
    (discovered : Settings.Discovered surroundings.system
      surroundings.workingDirectory path) :
    chooseAnalyzer surroundings .discovered = .ok analyzer ↔
      Settings.load surroundings.system path = .ok analyzer := by
  simp only [chooseAnalyzer, known,
    Settings.discoverAndLoad_of_discovered discovered]
  cases Settings.load surroundings.system path <;> simp [Except.map]

theorem settings_eq_discovered {arguments : List String}
    (read : readArguments arguments = .ok (.check options))
    (silent : ∀ item, Gives arguments item → ¬ item.SaysSettings) :
    options.settings = .discovered := by
  obtain ⟨_, givesNoConfig, givesConfig⟩ := gives_of_readArguments read
  cases source : options.settings with
  | discovered =>
      rfl
  | defaults =>
      exact (silent _ (givesNoConfig.2 source) rfl).elim
  | file path =>
      have given : Gives arguments (.value .config path.toList) := by
        rw [givesConfig, source, String.ofList_toList]
      exact (silent _ given rfl).elim

theorem sameResult_of_adds {source : SettingsSource}
    {arguments more : List String}
    (silent : ∀ item, Gives arguments item → ¬ item.SaysSettings)
    (adds : Adds source arguments more)
    (same : ∀ analyzer,
      chooseAnalyzer surroundings source = .ok analyzer ↔
        chooseAnalyzer surroundings .discovered = .ok analyzer) :
    SameResult (answer surroundings arguments)
      (answer surroundings more) := by
  unfold Adds at adds
  unfold answer
  rw [adds]
  cases read : readArguments arguments with
  | error error =>
      exact ⟨rfl, rfl⟩
  | ok request =>
      cases request with
      | information information =>
          exact ⟨rfl, rfl⟩
      | check options =>
          have searches : options.settings = .discovered :=
            settings_eq_discovered read silent
          rw [← searches] at same
          exact sameResult_check same rfl (fun _ => rfl) rfl

/-- A candidate for a settings file is spelt by its own text, and that is not
empty. -/
theorem candidate_spelt {directory path : Path} (spelt : directory.Spelt)
    (candidate : path ∈ Settings.candidates directory) :
    Path.ofString path.toString = path ∧ path.toString ≠ "" := by
  obtain ⟨ancestor, above, joined⟩ := List.mem_flatMap.1 candidate
  obtain ⟨name, isName, rfl⟩ := List.mem_map.1 joined
  have plain : ∀ each ∈ Settings.fileNames, '/' ∉ each.toList ∧ each ≠ "" := by
    decide
  obtain ⟨noSlash, nonempty⟩ := plain name isName
  have ancestorSpelt : ancestor.Spelt :=
    (Path.climbs_iff.2 rfl : Path.Climbs directory _).spelt spelt ancestor
      above
  have roundTrip := (ancestorSpelt.join noSlash).ofString_toString
  refine ⟨roundTrip, ?_⟩
  -- The last component is the name; that of an empty text would be empty.
  intro empty
  rw [empty] at roundTrip
  have last := congrArg (fun path : Path => path.components.getLast?) roundTrip
  have isEmpty : name = "" := by
    simpa [Path.ofString, Path.join, apply_ite Path.components,
      apply_ite List.getLast?, eq_comm] using last
  exact nonempty isEmpty

/-- A command line that rules the search out or names a settings file has one
answer in all surroundings in which it finds the same source and the same
settings file, whatever lies beside them and above the working directory. At
another time it has the same result, and the log of that time. One that does
neither, where the working directory can be told, has the result of asking for
the defaults if no candidate is a file, and the result of naming the file that
the search finds if there is one, be it malformed or not. It does not matter
where and how the option is added. -/
theorem search_does_not_interfere :
    (∀ arguments surroundings others,
        (∀ options, readArguments arguments = .ok (.check options) →
          Gives arguments (.flag .noConfig) ∨
            ∃ path, Gives arguments (.value .config path)) →
        Alike arguments surroundings others →
        (others.clock = surroundings.clock →
            answer others arguments = answer surroundings arguments) ∧
          answer others arguments =
            answer (surroundings.withClock others.clock) arguments ∧
          SameResult (answer surroundings arguments)
            (answer others arguments)) ∧
      ∀ arguments surroundings directory,
        (∀ item, Gives arguments item → ¬ item.SaysSettings) →
        surroundings.directoryFailure = none →
        surroundings.workingDirectory = Path.ofString directory →
        (Adds .defaults arguments ("--no-config" :: arguments) ∧
            ((∀ candidate ∈
                  Settings.candidates surroundings.workingDirectory,
                surroundings.system.isFile candidate = false) →
              ∀ more, Adds .defaults arguments more →
                SameResult (answer surroundings arguments)
                  (answer surroundings more))) ∧
          ∀ path,
            Settings.Discovered surroundings.system
              surroundings.workingDirectory path →
            Adds (.file path.toString) arguments
                (("--config=" ++ path.toString) :: arguments) ∧
              ∀ more, Adds (.file path.toString) arguments more →
                SameResult (answer surroundings arguments)
                  (answer surroundings more) := by
  refine ⟨?_, ?_⟩
  · intro arguments surroundings others decided alike
    have said : ∀ options, readArguments arguments = .ok (.check options) →
        options.settings ≠ .discovered := by
      intro options read
      obtain ⟨_, givesNoConfig, givesConfig⟩ := gives_of_readArguments read
      rcases decided options read with ruledOut | ⟨path, named⟩
      · rw [givesNoConfig.1 ruledOut]
        decide
      · rw [(givesConfig path).1 named]
        exact nofun
    have same := answer_eq_of_alike said alike
    refine ⟨?_, same, ?_⟩
    · intro sameClock
      rw [same, sameClock]
      rfl
    · rw [same]
      exact sameResult_answer_withClock surroundings others.clock arguments
  · intro arguments surroundings directory silent known isDirectory
    refine ⟨⟨?_, ?_⟩, ?_⟩
    · have solid : SettingsSource.defaults ≠ .file "" := by decide
      exact readArguments_append solid silent
    · intro missing more adds
      apply sameResult_of_adds silent adds
      intro analyzer
      rw [chooseAnalyzer_of_undiscovered known missing]
      rfl
    · intro path discovered
      have candidate :
          path ∈ Settings.candidates surroundings.workingDirectory := by
        obtain ⟨before, behind, listed, _⟩ := discovered
        rw [listed]
        exact List.mem_append_right before List.mem_cons_self
      rw [isDirectory] at candidate
      obtain ⟨roundTrip, nonempty⟩ :=
        candidate_spelt (Path.spelt_ofString directory) candidate
      refine ⟨?_, ?_⟩
      · have solid : SettingsSource.file path.toString ≠ .file "" :=
          fun same => nonempty (SettingsSource.file.inj same)
        exact readArguments_append solid silent
      · intro more adds
        apply sameResult_of_adds silent adds
        intro analyzer
        rw [chooseAnalyzer_of_discovered known discovered, chooseAnalyzer,
          roundTrip]
        exact mapError_eq_ok_iff

/-- Surroundings with a source and with malformed settings above the working
directory, in which an open brace alone is complained about as it ends too
soon. -/
def Surroundings.withStray : Surroundings :=
  { Surroundings.ofInput "" with
    system := .ofTexts [("a", "f main()"), ("/w/.formalintrc.json", "\x7b")]
    workingDirectory := Path.ofString "/w/v"
    wording :=
      { Wording.plain with
        json := fun _ => "EOF while parsing an object at line 1 column 1" } }

/-- Surroundings with nothing but the source of these. -/
def Surroundings.withoutStray : Surroundings :=
  { Surroundings.withStray with
    system := .ofTexts [("a", "f main()")]
    workingDirectory := Path.ofString "/"
    clock := fun index => ⟨min index 9, by omega⟩ }

/-- The search is ruled out in these surroundings and in others that have
nothing but the source, and it is left to run and then spelt out. -/
theorem search_does_not_interfere_stray :
    answer .withoutStray ["a", "--no-config"] =
        answer
          (Surroundings.withStray.withClock Surroundings.withoutStray.clock)
          ["a", "--no-config"] ∧
      SameResult (answer .withStray ["a"])
        (answer .withStray ["a", "-c", "/w/.formalintrc.json"]) := by
  obtain ⟨ruledOut, searched⟩ := search_does_not_interfere
  have items :
      (Spelling.ofArguments ["a", "--no-config"]).items =
        [.file "a", .flag .noConfig] := rfl
  have silent : ∀ item, Gives ["a"] item → ¬ item.SaysSettings := by
    intro item given
    have file : item = .file "a" := List.mem_singleton.1 given
    subst file
    exact id
  refine ⟨?_, ?_⟩
  · have alike : Alike ["a", "--no-config"] .withStray .withoutStray := by
      refine ⟨rfl, rfl, rfl, rfl, fun _ => rfl, ?_, ?_⟩
      · intro file given _
        rw [Gives, items] at given
        have isSource : file = "a" := by simpa using given
        subst isSource
        rfl
      · intro path given
        rw [Gives, items] at given
        simp at given
    exact
      (ruledOut _ _ _ (fun _ _ => Or.inl (by decide)) alike).2.1
  · have discovered := Settings.discover?_eq_some_iff.1
      (rfl : Settings.discover? Surroundings.withStray.system
        (Path.ofString "/w/v") = some (Path.ofString "/w/.formalintrc.json"))
    obtain ⟨_, named⟩ := searched ["a"] .withStray "/w/v" silent rfl rfl
    exact (named _ discovered).2 _ rfl

/-- Surroundings whose working directory is gone. -/
def Surroundings.withoutDirectory : Surroundings :=
  { Surroundings.withoutStray with directoryFailure := some .notFound }

/-- Surroundings with the files of a tree. -/
def Surroundings.ofTree (tree : File.Tree) : Surroundings :=
  { Surroundings.ofInput "" with system := tree.toSystem [] }

/-- A tree in which a file stands where a directory is looked for. -/
def blockedTree : File.Tree := { entries := [(["a"], .file .empty)] }

/-- The same source alone does not make the same answer. Without a working
directory the search fails where no candidate is a file, and asking for the
defaults does not. A source that is missing because a file stands on the way to
it is reported in other words than one that is just missing. And a log that is
written a second later is another text. -/
theorem answer_depends_on_directory_and_reason_and_time :
    ((∀ candidate ∈ Settings.candidates
            Surroundings.withoutDirectory.workingDirectory,
          Surroundings.withoutDirectory.system.isFile candidate = false) ∧
        (answer .withoutDirectory ["a"]).exitCode = 2 ∧
        (answer .withoutDirectory ["--no-config", "a"]).exitCode = 0) ∧
      ((∀ tree ∈ [{}, blockedTree],
          (Surroundings.ofTree tree).system.isFile (Path.ofString "a/b") =
            false) ∧
        (answer (.ofTree {}) ["--no-config", "a/b"]).errors =
          "Error: failed to read a/b: " ++
            "No such file or directory (os error 2)\n" ∧
        (answer (.ofTree blockedTree) ["--no-config", "a/b"]).errors =
          "Error: failed to read a/b: Not a directory (os error 20)\n") ∧
      (answer
            ((Surroundings.ofInput "").withClock fun _ => ⟨1, by decide⟩)
            ["--no-config", "-v", "a"]).errors ≠
        (answer (.ofInput "") ["--no-config", "-v", "a"]).errors := by
  refine ⟨⟨by decide, ?_, ?_⟩, ⟨by decide, ?_, ?_⟩, ?_⟩
  all_goals decide +kernel

end Preflight.CommandLine
