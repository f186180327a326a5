import Preflight.Settings.File

/-!
# Settings files that are refused

Loading a settings file fails for one of four reasons and no other, and the
error tells which of them it was. Discovery finds the first of the candidates
that is a regular file.
-/

namespace Preflight

open File (Path System ReadFailure)

theorem mapError_eq_error_iff {α ε φ : Type} {outcome : Except ε α}
    {f : ε → φ} {error : φ} :
    outcome.mapError f = .error error ↔
      ∃ cause, outcome = .error cause ∧ f cause = error := by
  cases outcome with
  | ok value =>
      constructor
      · intro failed
        cases failed
      · rintro ⟨cause, failed, _⟩
        cases failed
  | error cause =>
      constructor
      · intro failed
        exact ⟨cause, rfl, Except.error.inj failed⟩
      · rintro ⟨other, ⟨rfl⟩, rfl⟩
        rfl

theorem mapError_eq_ok_iff {α ε φ : Type} {outcome : Except ε α}
    {f : ε → φ} {value : α} :
    outcome.mapError f = .ok value ↔ outcome = .ok value := by
  cases outcome with
  | ok found =>
      constructor
      · intro succeeded
        cases succeeded
        rfl
      · intro succeeded
        cases succeeded
        rfl
  | error cause =>
      constructor
      · intro succeeded
        cases succeeded
      · intro succeeded
        cases succeeded

theorem Analyzer.ofSettings_eq_error_iff {settings : Settings}
    {flaw : Settings.Flaw} :
    ofSettings settings = .error flaw ↔ settings.flaw? = some flaw := by
  unfold ofSettings
  split
  · rename_i sound
    simp [sound]
  · rename_i found flawed
    simp [flawed]

namespace Settings

/-- Why a settings file gives no analyzer. -/
inductive Refused (system : System) (path : Path) : LoadError → Prop
  | unreadable {failure : ReadFailure} :
      system.read path = .error failure →
      Refused system path (.unreadable failure)
  | malformedYaml {text : String} :
      system.read path = .ok text → isYamlPath path = true →
      readYaml? text.toList = none →
      Refused system path (.malformedYaml text.toList)
  | malformedJson {text : String} :
      system.read path = .ok text → isYamlPath path = false →
      readJson? text.toList = none →
      Refused system path (.malformedJson text.toList)
  | unsound {text : String} {settings : Settings} {flaw : Flaw} :
      system.read path = .ok text →
      (if isYamlPath path then readYaml? text.toList
        else readJson? text.toList) = some settings →
      settings.flaw? = some flaw → Refused system path (.unsound flaw)

theorem ofFileText_eq_ok_iff {path : Path} {text : List Char}
    {settings : Settings} :
    ofFileText path text = .ok settings ↔
      (if isYamlPath path then readYaml? text else readJson? text) =
        some settings := by
  unfold ofFileText
  split
  · cases readYaml? text <;> simp
  · cases readJson? text <;> simp

theorem ofFileText_eq_error_iff {path : Path} {text : List Char}
    {error : LoadError} :
    ofFileText path text = .error error ↔
      (isYamlPath path = true ∧ readYaml? text = none ∧
          error = .malformedYaml text) ∨
        (isYamlPath path = false ∧ readJson? text = none ∧
          error = .malformedJson text) := by
  unfold ofFileText
  cases isYamlPath path with
  | true => cases readYaml? text <;> simp [eq_comm]
  | false => cases readJson? text <;> simp [eq_comm]

theorem load_eq_error_iff {system : System} {path : Path}
    {error : LoadError} :
    load system path = .error error ↔ Refused system path error := by
  constructor
  · intro failed
    unfold load at failed
    split at failed
    · rename_i failure unreadable
      cases failed
      exact Refused.unreadable unreadable
    · rename_i text readable
      split at failed
      · rename_i cause malformed
        cases failed
        rcases ofFileText_eq_error_iff.1 malformed with
          ⟨isYaml, unread, rfl⟩ | ⟨isJson, unread, rfl⟩
        · exact Refused.malformedYaml readable isYaml unread
        · exact Refused.malformedJson readable isJson unread
      · rename_i settings spelt
        obtain ⟨flaw, flawed, rfl⟩ := mapError_eq_error_iff.1 failed
        exact Refused.unsound readable (ofFileText_eq_ok_iff.1 spelt)
          (Analyzer.ofSettings_eq_error_iff.1 flawed)
  · intro refused
    unfold load
    cases refused with
    | unreadable unreadable => rw [unreadable]
    | malformedYaml readable isYaml unread =>
        simp only [readable, ofFileText, isYaml, unread, if_true]
    | malformedJson readable isJson unread =>
        simp only [readable, ofFileText, isJson, unread, Bool.false_eq_true,
          if_false]
    | unsound readable spelt flawed =>
        simp only [readable, ofFileText_eq_ok_iff.2 spelt,
          Analyzer.ofSettings_eq_error_iff.2 flawed]
        rfl

/-- A file spells settings when its text can be read and gives them, whether
they are sound or not. -/
def Spells (system : System) (path : Path) (settings : Settings) : Prop :=
  ∃ text, system.read path = .ok text ∧
    ofFileText path text.toList = .ok settings

theorem load_eq_ok_iff {system : System} {path : Path}
    {analyzer : Analyzer} :
    load system path = .ok analyzer ↔
      ∃ settings, Spells system path settings ∧
        Analyzer.ofSettings settings = .ok analyzer := by
  unfold load Spells
  cases system.read path with
  | error failure =>
      simp
  | ok text =>
      cases spelt : ofFileText path text.toList with
      | error cause =>
          simp [spelt]
      | ok settings =>
          simp [spelt, mapError_eq_ok_iff]

/-! ## Discovery -/

/-- A path is discovered when it is the first candidate that leads to a
regular file. -/
def Discovered (system : System) (directory path : Path) : Prop :=
  ∃ before behind,
    candidates directory = before ++ path :: behind ∧
      system.isFile path = true ∧
      ∀ other ∈ before, system.isFile other = false

theorem discover?_eq_some_iff {system : System} {directory path : Path} :
    discover? system directory = some path ↔
      Discovered system directory path := by
  rw [discover?, List.find?_eq_some_iff_append]
  constructor
  · rintro ⟨isFile, before, behind, listed, others⟩
    exact ⟨before, behind, listed, isFile, by simpa using others⟩
  · rintro ⟨before, behind, listed, isFile, others⟩
    exact ⟨isFile, before, behind, listed, by simpa using others⟩

theorem discoverAndLoad_eq_ok_none_iff {system : System}
    {directory : Path} :
    discoverAndLoad system directory = .ok none ↔
      ∀ candidate ∈ candidates directory, system.isFile candidate = false := by
  have noneFound :
      discover? system directory = none ↔
        ∀ candidate ∈ candidates directory,
          system.isFile candidate = false := by
    simp [discover?]
  rw [← noneFound]
  unfold discoverAndLoad
  cases discover? system directory with
  | none =>
      simp
  | some path =>
      cases loaded : load system path <;> simp [loaded, Except.map]

theorem discoverAndLoad_of_discovered {system : System}
    {directory path : Path}
    (discovered : Discovered system directory path) :
    discoverAndLoad system directory =
      (load system path).map fun analyzer => some (path, analyzer) := by
  rw [discoverAndLoad, discover?_eq_some_iff.2 discovered]

theorem discoverAndLoad_eq_ok_some_iff {system : System}
    {directory path : Path} {analyzer : Analyzer} :
    discoverAndLoad system directory = .ok (some (path, analyzer)) ↔
      Discovered system directory path ∧
        load system path = .ok analyzer := by
  constructor
  · intro found
    cases first : discover? system directory with
    | none =>
        rw [discoverAndLoad, first] at found
        cases found
    | some other =>
        have discovered := discover?_eq_some_iff.1 first
        rw [discoverAndLoad_of_discovered discovered] at found
        cases loaded : load system other with
        | error failure =>
            rw [loaded] at found
            cases found
        | ok made =>
            rw [loaded] at found
            cases found
            exact ⟨discovered, loaded⟩
  · rintro ⟨discovered, loaded⟩
    rw [discoverAndLoad_of_discovered discovered, loaded]
    rfl

theorem discoverAndLoad_eq_error_iff {system : System} {directory : Path}
    {error : LoadError} :
    discoverAndLoad system directory = .error error ↔
      ∃ path, Discovered system directory path ∧
        Refused system path error := by
  simp only [← discover?_eq_some_iff, ← load_eq_error_iff]
  unfold discoverAndLoad
  cases discover? system directory with
  | none => simp
  | some path =>
      cases loaded : load system path <;> simp [loaded, Except.map]

end Settings

end Preflight
