import Preflight.CommandLine.LogFilter
import Preflight.CommandLine.Wording
import Preflight.Preview
import Preflight.Record
import Preflight.Render

/-!
# Running a check

A check chooses its settings, reads its source, analyses it and writes the
result. What it does depends only on its options and on its surroundings, and
what comes of it is an exit code and two streams of text. A check that fails
before the analysis writes nothing to standard output.
-/

namespace Preflight.CommandLine

open File (Path System ReadFailure)

/-! ## Surroundings and outcomes -/

/-- What a check can see of the world. -/
structure Surroundings where
  system : System
  workingDirectory : Path
  /-- Why the working directory cannot be told, if it cannot. -/
  directoryFailure : Option ReadFailure := none
  /-- The text of standard input. -/
  input : Except ReadFailure String
  /-- The variables of the environment. -/
  environment : String → Option String
  /-- Whether standard output goes to a terminal. -/
  terminal : Bool
  /-- Whether standard error goes to a terminal. -/
  errorTerminal : Bool
  /-- When the log is written, line by line. -/
  clock : Nat → Moment
  wording : Wording

/-- What comes of a run. -/
structure Outcome where
  exitCode : Nat
  output : String := ""
  errors : String := ""
  deriving DecidableEq, Repr

/-- Why a check fails. -/
inductive Failure where
  | directory (failure : ReadFailure)
  | settings (path : Option String) (error : Settings.LoadError)
  | input (failure : ReadFailure)
  | source (file : String) (failure : ReadFailure)
  deriving DecidableEq, Repr

namespace Failure

/-- A failure and the causes beneath it. -/
def chain (wording : Wording) : Failure → List String
  | directory failure =>
      ["failed to read current directory", failure.message]
  | settings none error => error.chain wording.toComplaints
  | settings (some path) error =>
      ("failed to load config " ++ path) :: error.chain wording.toComplaints
  | input failure => ["failed to read stdin", failure.message]
  | source file failure => ["failed to read " ++ file, failure.message]

def line (wording : Wording) (failure : Failure) : String :=
  "Error: " ++ String.intercalate ": " (failure.chain wording) ++ "\n"

end Failure

/-! ## Settings -/

def mainTarget : String := "forma_lint"

/-- The target of log entries on the search for settings. -/
def settingsTarget : String := "forma_lint::config"

/-- The target of log entries of the delimiter scan. -/
def delimiterTarget : String := "forma_lint::rules::delimiters"

def chooseAnalyzer (surroundings : Surroundings) (source : SettingsSource) :
    Except Failure Analyzer :=
  match source with
  | .file path =>
      (Settings.load surroundings.system (Path.ofString path)).mapError
        (.settings (some path))
  | .defaults => .ok .standard
  | .discovered =>
      match surroundings.directoryFailure with
      | some failure => .error (.directory failure)
      | none =>
          match
            Settings.discoverAndLoad surroundings.system
              surroundings.workingDirectory with
          | .error error => .error (.settings none error)
          | .ok (some (_, analyzer)) => .ok analyzer
          | .ok none => .ok .standard

def chooseLog (surroundings : Surroundings) (source : SettingsSource) :
    List Log.Entry :=
  match source with
  | .file _ | .defaults => []
  | .discovered =>
      if surroundings.directoryFailure.isSome then []
      else
        match
          Settings.discover? surroundings.system
            surroundings.workingDirectory with
        | none =>
            [⟨.debug, settingsTarget,
              "no config file found above " ++
                surroundings.workingDirectory.toString⟩]
        | some path =>
            let loading : Log.Entry :=
              ⟨.debug, settingsTarget,
                "loading config from " ++ path.toString⟩
            match Settings.load surroundings.system path with
            | .error _ => [loading]
            | .ok _ =>
                [loading,
                  ⟨.info, mainTarget, "using config " ++ path.toString⟩]

def settingsLog (settings : Settings) : List Log.Entry :=
  [⟨.debug, mainTarget,
    "thresholds: AnalyzerConfig \x7b max_line_length: " ++
      toString settings.maxLineLength ++
      ", indent_width: " ++ toString settings.indentWidth ++
      ", chars_per_token: " ++ toString settings.charsPerToken ++
      ", comparative_token_ratio: " ++
      settings.comparativeTokenRatio.text .log ++
      ", entrypoint: \"" ++ settings.entrypoint ++ "\" \x7d"⟩]

/-! ## Source -/

def readSource (surroundings : Surroundings) (file : String) :
    Except Failure String :=
  if file = "-" then surroundings.input.mapError .input
  else
    (surroundings.system.read (Path.ofString file)).mapError (.source file)

def analysisLog (file source : String) (analysis : Analysis) :
    List Log.Entry :=
  let text := source.toList
  let mismatch :=
    match Delimiter.scan text with
    | some ⟨.unmatchedClosing, character, position⟩ =>
        [⟨.trace, delimiterTarget,
          "unmatched '" ++ character.toString ++ "' at " ++
            toString position.line ++ ":" ++ toString position.column⟩]
    | _ => []
  [⟨.debug, mainTarget,
    "checking " ++ file ++ " (" ++ toString source.utf8ByteSize ++
      " bytes)"⟩] ++
    mismatch ++
    [⟨.debug, mainTarget,
      "analyzed " ++ toString (Text.lines text).length ++ " line(s): " ++
        toString analysis.issues.length ++ " issue(s), ~" ++
        toString analysis.estimatedTokenCount ++ " tokens"⟩]

/-! ## Output -/

/-- Whether labels on standard output have colours. A variable can force
them; another can forbid them; without either a terminal has them unless a
third variable is zero. -/
def hasColors (surroundings : Surroundings) : Bool :=
  let isOn (name : String) : Option Bool :=
    (surroundings.environment name).map fun value => value ≠ "0"
  if isOn "CLICOLOR_FORCE" = some true then true
  else if (isOn "NO_COLOR").isSome then false
  else surroundings.terminal && (isOn "CLICOLOR").getD true

/-- The analysis as far as it is shown. -/
def shown (options : Options) (analysis : Analysis) : Analysis :=
  if options.errorsOnly then analysis.errorsOnly else analysis

def outputStyle (surroundings : Surroundings) (options : Options) : Style :=
  { colored := hasColors surroundings && !options.noColor
    footer := true }

def resultText (surroundings : Surroundings) (options : Options)
    (analysis : Analysis) : String :=
  match options.format with
  | .text =>
      (outputStyle surroundings options).analysisText
        (shown options analysis)
  | .json => (shown options analysis).write .pretty ++ "\n"
  | .report => (Report.ofAnalysis analysis).write .pretty ++ "\n"

def previewText (options : Options) (source : String) : String :=
  if options.simulate then
    String.ofList (Preview.ofText source.toList).render ++ "\n"
  else ""

/-- Where the preview goes: behind an empty line on standard output in the
format for people, and to the other stream in the formats for programs, whose
output is a single document. -/
def previewOutput (options : Options) (source : String) : String × String :=
  let preview := previewText options source
  match options.format with
  | .text => (if options.simulate then "\n" ++ preview else "", "")
  | .json | .report => ("", preview)

/-! ## Runs -/

/-- Whether the log has colours. A variable can force or forbid them. Otherwise
one can forbid and another can force them, a third can forbid them if it is
zero, and a terminal has them if it is known to show them. -/
def logHasColors (surroundings : Surroundings) : Bool :=
  let isGiven (name : String) : Bool :=
    (surroundings.environment name).any fun value => !value.isEmpty
  let terminalColor := surroundings.environment "CLICOLOR"
  match surroundings.environment "RUST_LOG_STYLE" with
  | some "always" => true
  | some "never" => false
  | _ =>
      if isGiven "NO_COLOR" then false
      else if isGiven "CLICOLOR_FORCE" then true
      else if terminalColor = some "0" then false
      else
        surroundings.errorTerminal &&
          ((surroundings.environment "TERM").any (· ≠ "dumb") ||
            terminalColor.isSome ||
            (surroundings.environment "CI").isSome)

def logFilter (surroundings : Surroundings) (options : Options) :
    Log.FilterReading :=
  match surroundings.environment "RUST_LOG" with
  | some spelling => .ofString spelling
  | none => { filter := .upTo (if options.verbose then .debug else .warn) }

/-- What is written about a log: the warnings about its filter and the lines of
the entries that are shown. -/
def logText (surroundings : Surroundings) (options : Options)
    (log : List Log.Entry) : String :=
  let reading := logFilter surroundings options
  reading.warnings ++
    reading.filter.lines (logHasColors surroundings) surroundings.clock log

/-- Check a source. An analyzer has sound settings, so nothing validates them
once more, and its entrypoint is looked for however long the name is. -/
def check (surroundings : Surroundings) (options : Options) : Outcome :=
  let errorsWith (log : List Log.Entry) (errors : String) : String :=
    logText surroundings options log ++ errors
  let choosing := chooseLog surroundings options.settings
  match chooseAnalyzer surroundings options.settings with
  | .error failure =>
      { exitCode := 2
        errors := errorsWith choosing (failure.line surroundings.wording) }
  | .ok analyzer =>
      let log := choosing ++ settingsLog analyzer.settings
      match readSource surroundings options.file with
      | .error failure =>
          { exitCode := 2
            errors := errorsWith log (failure.line surroundings.wording) }
      | .ok source =>
          let analysis := analyzer.analyze source.toList
          let (behindOutput, behindErrors) := previewOutput options source
          { exitCode := if analysis.hasErrors then 1 else 0
            output := resultText surroundings options analysis ++ behindOutput
            errors :=
              errorsWith (log ++ analysisLog options.file source analysis)
                behindErrors }

/-- What the program says when it is asked for its version. -/
def versionLine : String := "forma-lint 0.1.0\n"

def Information.text (wording : Wording) : Information → String
  | version => versionLine
  | help long => wording.help long

def run (surroundings : Surroundings) : Request → Outcome
  | .information information =>
      { exitCode := 0, output := information.text surroundings.wording }
  | .check options => check surroundings options

/-- What the program answers to a command line. -/
def answer (surroundings : Surroundings) (arguments : List String) : Outcome :=
  match readArguments arguments with
  | .error _ =>
      { exitCode := 2, errors := surroundings.wording.refusal arguments }
  | .ok request => run surroundings request

end Preflight.CommandLine
