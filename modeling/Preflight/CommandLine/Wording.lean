import Preflight.CommandLine.Arguments
import Preflight.Settings.File

/-!
# Wording

What is said about arguments that are refused and about malformed settings
files, and how the program is used, is told in the words of others. A wording
holds these texts. A plain one is given here.
-/

namespace Preflight.CommandLine

/-- The texts that are left open. -/
structure Wording extends Settings.Complaints where
  /-- What is said about arguments that are refused. -/
  refusal : List String → String
  /-- How the program is used, in short or at length. -/
  help : (long : Bool) → String

def UsageError.reason : UsageError → String
  | missingFile => "no file is given"
  | extraArgument argument => "unexpected argument '" ++ argument ++ "'"
  | unknownOption argument => "unknown option '" ++ argument ++ "'"
  | unexpectedValue argument => "unexpected value in '" ++ argument ++ "'"
  | missingValue => "an option lacks its value"
  | unknownFormat value => "unknown format '" ++ value ++ "'"
  | emptyPath => "the path of the settings file is empty"
  | repeatedOption => "an option is given twice"
  | conflictingOptions => "a settings file is both given and ruled out"

namespace Wording

def usage : String := "Usage: forma-lint [OPTIONS] <FILE>"

def plainRefusal (arguments : List String) : String :=
  match readArguments arguments with
  | .ok _ => ""
  | .error error =>
      "error: " ++ error.reason ++ "\n\n" ++ usage ++
        "\n\nFor more information, try '--help'.\n"

def plainHelp : String :=
  String.intercalate "\n"
    ["Heuristic diagnostics for FORMA source files", "", usage, "",
      "Arguments:",
      "  <FILE>  FORMA file to check (or - for stdin)", "",
      "Options:",
      "  -f, --format <FORMAT>  Output format: text (default), json, report",
      "  -c, --config <CONFIG>  Config file path",
      "      --no-config        Do not look for a config file",
      "      --errors-only      Only show errors (text and json formats)",
      "      --simulate         Also print the output simulated from print()",
      "      --no-color         Disable colored output",
      "  -v, --verbose          Verbose output",
      "  -h, --help             Print help",
      "  -V, --version          Print version", ""]

def plain : Wording where
  json _ := "these are no settings in JSON"
  yaml _ := "these are no settings in YAML"
  refusal := plainRefusal
  help _ := plainHelp

end Wording

end Preflight.CommandLine
