import Preflight.Analyzer
import Preflight.File.System
import Preflight.Settings.FromYaml

/-!
# Settings files

A settings file is YAML if its extension says so and JSON otherwise. Its
settings must be sound. Without an explicit path, a settings file is looked
for in a directory and then in its parents, under a fixed list of names; the
first file found decides, even if it turns out to be unreadable.
-/

namespace Preflight

open File (Path System ReadFailure)

namespace Settings

/-- Why a settings file gives no settings. -/
inductive LoadError where
  | unreadable (failure : ReadFailure)
  /-- The text of the file spells no settings in JSON. -/
  | malformedJson (text : List Char)
  | malformedYaml (text : List Char)
  | unsound (flaw : Flaw)
  deriving DecidableEq, Repr

/-- What the readers of JSON and of YAML say about a text that spells no
settings. Their wording is left open. -/
structure Complaints where
  json : List Char → String
  yaml : List Char → String

namespace LoadError

variable (complaints : Complaints)

def detail : LoadError → String
  | unreadable failure => failure.message
  | malformedJson text => complaints.json text
  | malformedYaml text => complaints.yaml text
  | unsound flaw => flaw.message

def message (error : LoadError) : String :=
  let heading :=
    match error with
    | unreadable _ => "Failed to read config file"
    | malformedJson _ => "Failed to parse JSON config"
    | malformedYaml _ => "Failed to parse YAML config"
    | unsound _ => "Invalid configuration"
  heading ++ ": " ++ error.detail complaints

/-- An error and the cause beneath it, if there is one. -/
def chain (error : LoadError) : List String :=
  match error with
  | unsound _ => [error.message complaints]
  | unreadable _ | malformedJson _ | malformedYaml _ =>
      [error.message complaints, error.detail complaints]

end LoadError

/-- Whether a file with this path holds YAML. -/
def isYamlPath (path : Path) : Bool :=
  path.extension? = some "yaml" || path.extension? = some "yml"

/-- The settings that the text of a settings file spells. -/
def ofFileText (path : Path) (text : List Char) : Except LoadError Settings :=
  if isYamlPath path then
    match readYaml? text with
    | some settings => .ok settings
    | none => .error (.malformedYaml text)
  else
    match readJson? text with
    | some settings => .ok settings
    | none => .error (.malformedJson text)

/-- The analyzer with the settings of a file. -/
def load (system : System) (path : Path) : Except LoadError Analyzer :=
  match system.read path with
  | .error failure => .error (.unreadable failure)
  | .ok text =>
      match ofFileText path text.toList with
      | .error error => .error error
      | .ok settings => (Analyzer.ofSettings settings).mapError .unsound

/-! ## Discovery -/

def fileNames : List String :=
  [".formalintrc.json", ".formalintrc.yaml", ".formalintrc.yml",
    ".formalintrc", "formalint.json", "formalint.yaml"]

/-- The paths of settings files for a directory, in the order in which they
are tried: every name in the directory, then in its parents. -/
def candidates (directory : Path) : List Path :=
  directory.ancestors.flatMap fun ancestor => fileNames.map ancestor.join

/-- The first candidate that is a regular file. -/
def discover? (system : System) (directory : Path) : Option Path :=
  (candidates directory).find? system.isFile

/-- The settings file for a directory and the analyzer with its settings. -/
def discoverAndLoad (system : System) (directory : Path) :
    Except LoadError (Option (Path × Analyzer)) :=
  match discover? system directory with
  | none => .ok none
  | some path =>
      (load system path).map fun analyzer => some (path, analyzer)

end Settings

end Preflight
