import Preflight.CommandLine.Run

/-!
# The command line

The program reads its arguments, looks at the files that a check may need, and
hands both to the check. Everything else is decided there.
-/

namespace Preflight.CommandLine

open File (Path System ReadFailure)

/-- The failure that an error of the runtime stands for. Its number may come
with the opposite sign. -/
def readFailure : IO.Error → ReadFailure
  | .noFileOrDirectory .. => .notFound
  | error@(.permissionDenied _ code _) =>
      if code = 13 ∨ code = -13 then .other "Permission denied (os error 13)"
      else .other error.toString
  | error@(.inappropriateType _ code _) =>
      if code = 20 ∨ code = -20 then .notDirectory
      else if code = 21 ∨ code = -21 then .isDirectory
      else .other error.toString
  | error => .other error.toString

/-- What stands at a path. -/
structure Finding where
  isFile : Bool
  text : Except ReadFailure String

def isRegularFile (path : Path) : IO Bool := do
  match ← (do (← IO.FS.realPath path.toString).metadata).toBaseIO with
  | .ok metadata => return metadata.type == .file
  | .error _ => return false

def readText (reading : IO ByteArray) : IO (Except ReadFailure String) := do
  match ← reading.toBaseIO with
  | .ok content => return File.decode content
  | .error error => return .error (readFailure error)

def lookAt (path : Path) : IO (Path × Finding) := do
  let text ← readText (IO.FS.readBinFile path.toString)
  return (path, ⟨← isRegularFile path, text⟩)

/-- Look for a settings file. What is no regular file is never read. -/
def lookForFile (path : Path) : IO (Path × Finding) := do
  if ← isRegularFile path then lookAt path
  else return (path, ⟨false, .error .notFound⟩)

def systemOf (found : List (Path × Finding)) : System :=
  { isFile := fun path => (found.lookup path).any Finding.isFile
    read := fun path =>
      ((found.lookup path).map Finding.text).getD (.error .notFound) }

/-- Look at all that a check may read. -/
def findingsFor (workingDirectory : Path) (options : Options) :
    IO (List (Path × Finding)) := do
  let source ←
    if options.file = "-" then pure []
    else pure [← lookAt (Path.ofString options.file)]
  match options.settings with
  | .discovered =>
      return source ++
        (← (Settings.candidates workingDirectory).mapM lookForFile)
  | .defaults => return source
  | .file path => return source ++ [← lookAt (Path.ofString path)]

/-- The present moment: the one at which the system made up a file that tells
about the running program. -/
def presentMoment : IO Moment := do
  let metadata ←
    (do (← IO.FS.realPath "/proc/self/stat").metadata).toBaseIO
  let seconds :=
    (metadata.toOption.map fun found => found.modified.sec.toNat).getD 0
  return if hasShortYear : seconds < 253402300800 then
      ⟨seconds, hasShortYear⟩
    else .first

def variableNames : List String :=
  ["RUST_LOG", "RUST_LOG_STYLE", "NO_COLOR", "CLICOLOR", "CLICOLOR_FORCE",
    "TERM", "CI"]

/-- What a request can see of the world. All lines of its log are written at
the moment at which it looks. -/
def surroundings (request : Except UsageError Request) : IO Surroundings := do
  let (workingDirectory, directoryFailure) :=
    match ← IO.currentDir.toBaseIO with
    | .ok directory => (Path.ofString directory.toString, none)
    | .error error => (Path.ofString "", some (readFailure error))
  let (found, input) ←
    match request with
    | .ok (.check options) =>
        let input ←
          if options.file = "-" then
            readText do (← IO.getStdin).readBinToEnd
          else pure (.ok "")
        pure (← findingsFor workingDirectory options, input)
    | _ => pure ([], .ok "")
  let moment ← presentMoment
  let variableValues ←
    variableNames.mapM fun name => return (name, ← IO.getEnv name)
  return {
    system := systemOf found
    workingDirectory
    directoryFailure
    input
    environment := fun name => (variableValues.lookup name).join
    terminal := ← (← IO.getStdout).isTty
    errorTerminal := ← (← IO.getStderr).isTty
    clock := fun _ => moment
    wording := .plain }

def perform (arguments : List String) : IO Outcome := do
  return answer (← surroundings (readArguments arguments)) arguments

end Preflight.CommandLine

/-- The entry of the program. -/
def main (arguments : List String) : IO UInt32 := do
  let outcome ← Preflight.CommandLine.perform arguments
  IO.print outcome.output
  IO.eprint outcome.errors
  return outcome.exitCode.toUInt32
