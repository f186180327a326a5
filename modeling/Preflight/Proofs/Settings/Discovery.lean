import Preflight.Proofs.File.Path
import Preflight.Proofs.Settings.File

/-!
# The first settings file decides

The search for a settings file tries one name after another in a directory and
then goes up to the parent. It ends for every directory and every file system,
and it ends at the first candidate that is a regular file. What this file holds
is the outcome, be it an error; files behind it have no influence.
-/

namespace Preflight

open File (Path System)

/-- The file system in which these paths, as they are written, lead to regular
files with these texts, and no others do. -/
def File.System.ofTexts (files : List (String × String)) : System :=
  { isFile := fun path => (files.lookup path.toString).isSome
    read := fun path =>
      match files.lookup path.toString with
      | some text => .ok text
      | none => .error .notFound }

namespace Settings

/-! ## The search, step by step -/

/-- The search in a directory with the names that are left to try there, and
the file at which it ends, if it ends at one. -/
inductive Search (system : System) :
    Path → List String → Option Path → Prop
  | hit {directory : Path} {name : String} {names : List String} :
      system.isFile (directory.join name) = true →
      Search system directory (name :: names) (some (directory.join name))
  | miss {directory : Path} {name : String} {names : List String}
      {found : Option Path} :
      system.isFile (directory.join name) = false →
      Search system directory names found →
      Search system directory (name :: names) found
  | up {directory parent : Path} {found : Option Path} :
      directory.parent? = some parent →
      Search system parent fileNames found →
      Search system directory [] found
  | top {directory : Path} :
      directory.parent? = none → Search system directory [] none

variable {system : System} {directory : Path}

/-- The names in a directory are tried in their order before the search goes
on. -/
theorem Search.through_names {above : Option Path}
    (goesOn : Search system directory [] above) (names : List String) :
    Search system directory names
      (((names.map directory.join).find? system.isFile).or above) := by
  induction names with
  | nil =>
      exact goesOn
  | cons name more inductionHypothesis =>
      rw [List.map_cons]
      cases isFile : system.isFile (directory.join name) with
      | true =>
          rw [List.find?_cons_of_pos isFile]
          exact Search.hit isFile
      | false =>
          rw [List.find?_cons_of_neg (by simp [isFile])]
          exact Search.miss isFile inductionHypothesis

theorem search_of_climbs {directories : List Path}
    (climbs : Path.Climbs directory directories) :
    Search system directory fileNames
      ((directories.flatMap fun each => fileNames.map each.join).find?
        system.isFile) := by
  induction climbs with
  | top isTop =>
      have top : Search system _ [] none := Search.top isTop
      have ends := top.through_names fileNames
      rwa [Option.or_none, ← List.flatMap_singleton (fun each : Path =>
        fileNames.map each.join)] at ends
  | up goesUp _ inductionHypothesis =>
      rw [List.flatMap_cons, List.find?_append]
      exact (Search.up goesUp inductionHypothesis).through_names fileNames

theorem Search.unique {names : List String} {found other : Option Path}
    (search : Search system directory names found)
    (searchToo : Search system directory names other) : other = found := by
  induction search with
  | hit isFile =>
      cases searchToo with
      | hit _ =>
          rfl
      | miss isNone _ =>
          rw [isFile] at isNone
          cases isNone
  | miss isNone _ inductionHypothesis =>
      cases searchToo with
      | hit isFile =>
          rw [isNone] at isFile
          cases isFile
      | miss _ later =>
          exact inductionHypothesis later
  | up goesUp _ inductionHypothesis =>
      cases searchToo with
      | up goesUpToo later =>
          rw [goesUp] at goesUpToo
          cases goesUpToo
          exact inductionHypothesis later
      | top isTop =>
          rw [goesUp] at isTop
          cases isTop
  | top isTop =>
      cases searchToo with
      | up goesUp _ =>
          rw [isTop] at goesUp
          cases goesUp
      | top _ =>
          rfl

/-- The search ends, and it ends where discovery says. -/
theorem search_iff {found : Option Path} :
    Search system directory fileNames found ↔
      found = discover? system directory := by
  have ends : Search system directory fileNames
      (discover? system directory) :=
    search_of_climbs (Path.climbs_iff.2 rfl)
  constructor
  · exact ends.unique
  · rintro rfl
    exact ends

/-! ## The file found and its settings -/

theorem load_congr {other : System} {path : Path}
    (sameText : other.read path = system.read path) :
    load other path = load system path := by
  rw [load, load, sameText]

/-- The search for a settings file ends, whatever the file system and the
directory. Its candidates are the file names in the directory and then in each
directory above it, nearest first. Discovery finds nothing exactly when no
candidate is a regular file. Otherwise the first candidate that is one decides:
its path and its settings are the outcome, or else the error in loading it. Two
file systems with the same regular files up to this candidate and the same text
in it have the same outcome, so nothing behind it makes up for its error. -/
theorem first_settings_file_decides (system : System) (start : Path) :
    (∀ found,
        Search system start fileNames found ↔
          found = discover? system start) ∧
      ∃ directories,
        (∀ others, Path.Climbs start others ↔ others = directories) ∧
          (discoverAndLoad system start = .ok none ↔
            ∀ directory ∈ directories, ∀ name ∈ fileNames,
              system.isFile (directory.join name) = false) ∧
          ∀ before path behind,
            (directories.flatMap fun directory =>
                fileNames.map directory.join) =
              before ++ path :: behind →
            (∀ other ∈ before, system.isFile other = false) →
            system.isFile path = true →
            (∀ found analyzer,
                discoverAndLoad system start =
                    .ok (some (found, analyzer)) ↔
                  found = path ∧ load system path = .ok analyzer) ∧
              (∀ error,
                discoverAndLoad system start = .error error ↔
                  load system path = .error error) ∧
              ∀ other : System,
                (∀ candidate ∈ before ++ [path],
                  other.isFile candidate = system.isFile candidate) →
                other.read path = system.read path →
                discoverAndLoad other start =
                  discoverAndLoad system start := by
  refine ⟨fun found => search_iff, start.ancestors,
    fun others => Path.climbs_iff, ?_, ?_⟩
  · rw [discoverAndLoad_eq_ok_none_iff, candidates,
      List.forall_mem_flatMap]
    simp only [List.forall_mem_map]
  · intro before path behind listed othersMissing isFile
    have loads := discoverAndLoad_of_discovered
      (⟨before, behind, listed, isFile, othersMissing⟩ :
        Discovered system start path)
    refine ⟨?_, ?_, ?_⟩
    · intro found analyzer
      rw [loads]
      cases load system path with
      | ok loaded =>
          simp [Except.map, eq_comm]
      | error failure =>
          simp [Except.map]
    · intro error
      rw [loads]
      cases load system path <;> simp [Except.map]
    · intro other sameFiles sameText
      have othersMissingToo :
          ∀ candidate ∈ before, other.isFile candidate = false := by
        intro candidate member
        rw [sameFiles candidate (List.mem_append_left [path] member)]
        exact othersMissing candidate member
      have isFileToo : other.isFile path = true := by
        rw [sameFiles path (by simp)]
        exact isFile
      rw [loads, discoverAndLoad_of_discovered
        (⟨before, behind, listed, isFileToo, othersMissingToo⟩ :
          Discovered other start path), load_congr sameText]

/-- A malformed file under the fifth name in the parent of a directory that is
not there, with sound settings one directory farther up and without them. -/
theorem first_settings_file_decides_malformed :
    discoverAndLoad
          (.ofTexts
            [("a/formalint.json", "\x7b"), (".formalintrc.json", "\x7b\x7d")])
          (Path.ofString "a/b") =
        .error (.malformedJson ['\x7b']) ∧
      discoverAndLoad (.ofTexts [("a/formalint.json", "\x7b")])
          (Path.ofString "a/b") =
        .error (.malformedJson ['\x7b']) := by
  obtain ⟨_, directories, climbs, _, first⟩ :=
    first_settings_file_decides
      (.ofTexts
        [("a/formalint.json", "\x7b"), (".formalintrc.json", "\x7b\x7d")])
      (Path.ofString "a/b")
  have up : [Path.ofString "a/b", Path.ofString "a", Path.ofString ""] =
      directories :=
    (climbs _).1 (.up (by decide) (.up (by decide) (.top (by decide))))
  subst up
  obtain ⟨_, failed, same⟩ :=
    first _ (Path.ofString "a/formalint.json") _
      (List.take_append_drop 10 _).symm (by decide) (by decide)
  have malformed := (failed (.malformedJson ['\x7b'])).2 rfl
  exact ⟨malformed,
    (same (.ofTexts [("a/formalint.json", "\x7b")]) (by decide)
      rfl).trans malformed⟩

end Settings

end Preflight
