/-!
# Command line arguments

The arguments name one file and any of a few options, in any order. Options
have a long name or a short one; short ones may be joined. An option that
takes a value has it in the same argument or in the next one. Two dashes end
the options. No option may be given twice. Asking for the version or for help is
answered at once, whatever follows.
-/

namespace Preflight.CommandLine

/-! ## Requests -/

/-- The formats of the output. -/
inductive Format where
  | text
  | json
  | report
  deriving DecidableEq, Repr

/-- Where the settings come from. -/
inductive SettingsSource where
  /-- The file that discovery finds, or the defaults. -/
  | discovered
  | defaults
  | file (path : String)
  deriving DecidableEq, Repr

/-- What a check is asked to do. -/
structure Options where
  /-- The file to check; a single dash stands for standard input. -/
  file : String
  format : Format := .text
  settings : SettingsSource := .discovered
  errorsOnly : Bool := false
  simulate : Bool := false
  noColor : Bool := false
  verbose : Bool := false
  deriving DecidableEq, Repr

/-- What the program tells about itself. -/
inductive Information where
  | version
  /-- How the program is used, in short or at length. -/
  | help (long : Bool)
  deriving DecidableEq, Repr

/-- What the program is asked to do. -/
inductive Request where
  | information (information : Information)
  | check (options : Options)
  deriving DecidableEq, Repr

/-- Why arguments are refused. -/
inductive UsageError where
  | missingFile
  | extraArgument (argument : String)
  | unknownOption (argument : String)
  | unexpectedValue (argument : String)
  | missingValue
  | unknownFormat (value : String)
  | emptyPath
  | repeatedOption
  | conflictingOptions
  deriving DecidableEq, Repr

/-! ## Options -/

/-- The options without a value. -/
inductive Flag where
  | noConfig
  | errorsOnly
  | simulate
  | noColor
  | verbose
  deriving DecidableEq, Repr

/-- The options with a value. -/
inductive Valued where
  | format
  | config
  deriving DecidableEq, Repr

/-- The options. -/
inductive OptionName where
  | flag (flag : Flag)
  | valued (valued : Valued)
  | information (information : Information)
  deriving DecidableEq, Repr

def longOption? (name : List Char) : Option OptionName :=
  match String.ofList name with
  | "no-config" => some (.flag .noConfig)
  | "errors-only" => some (.flag .errorsOnly)
  | "simulate" => some (.flag .simulate)
  | "no-color" => some (.flag .noColor)
  | "verbose" => some (.flag .verbose)
  | "format" => some (.valued .format)
  | "config" => some (.valued .config)
  | "version" => some (.information .version)
  | "help" => some (.information (.help true))
  | _ => none

def shortOption? (name : Char) : Option OptionName :=
  match name with
  | 'v' => some (.flag .verbose)
  | 'f' => some (.valued .format)
  | 'c' => some (.valued .config)
  | 'V' => some (.information .version)
  | 'h' => some (.information (.help false))
  | _ => none

def Format.ofName? (name : List Char) : Option Format :=
  match String.ofList name with
  | "text" => some .text
  | "json" => some .json
  | "report" => some .report
  | _ => none

/-- What the arguments read so far ask for. -/
structure Draft where
  file : Option String := none
  format : Option Format := none
  config : Option String := none
  flags : List Flag := []
  deriving Repr

namespace Draft

def setFlag (draft : Draft) (flag : Flag) : Except UsageError Draft :=
  if flag ∈ draft.flags then .error .repeatedOption
  else .ok { draft with flags := flag :: draft.flags }

def setValue (draft : Draft) (valued : Valued) (value : List Char) :
    Except UsageError Draft :=
  match valued with
  | .format =>
      match Format.ofName? value with
      | none => .error (.unknownFormat (String.ofList value))
      | some format =>
          if draft.format.isSome then .error .repeatedOption
          else .ok { draft with format := some format }
  | .config =>
      if value.isEmpty then .error .emptyPath
      else if draft.config.isSome then .error .repeatedOption
      else .ok { draft with config := some (String.ofList value) }

def setFile (draft : Draft) (file : String) : Except UsageError Draft :=
  if draft.file.isSome then .error (.extraArgument file)
  else .ok { draft with file := some file }

/-- The request that all arguments make. -/
def finish (draft : Draft) : Except UsageError Request :=
  match draft.file, draft.config, decide (Flag.noConfig ∈ draft.flags) with
  | _, some _, true => .error .conflictingOptions
  | none, _, _ => .error .missingFile
  | some file, config, noConfig =>
      .ok (.check
        { file
          format := draft.format.getD .text
          settings :=
            match config with
            | some path => .file path
            | none => if noConfig then .defaults else .discovered
          errorsOnly := decide (Flag.errorsOnly ∈ draft.flags)
          simulate := decide (Flag.simulate ∈ draft.flags)
          noColor := decide (Flag.noColor ∈ draft.flags)
          verbose := decide (Flag.verbose ∈ draft.flags) })

end Draft

/-! ## Reading arguments -/

/-- What an argument leads to. -/
inductive Step where
  /-- Go on with the next argument. -/
  | next (draft : Draft)
  /-- The next argument is the value of this option. -/
  | awaits (draft : Draft) (valued : Valued)
  /-- Answer with this at once. -/
  | information (information : Information)

/-- A value in the same argument as its short option, without the equals sign
that may stand before it. -/
def attachedValue : List Char → List Char
  | '=' :: value => value
  | value => value

/-- Read short options that are joined in one argument. -/
def readShort (draft : Draft) : List Char → Except UsageError Step
  | [] => .ok (.next draft)
  | name :: rest =>
      match shortOption? name with
      | none => .error (.unknownOption name.toString)
      | some (.information information) => .ok (.information information)
      | some (.flag flag) =>
          match draft.setFlag flag with
          | .error error => .error error
          | .ok draft => readShort draft rest
      | some (.valued valued) =>
          if rest.isEmpty then .ok (.awaits draft valued)
          else (draft.setValue valued (attachedValue rest)).map .next

/-- Split a long option at its first equals sign into its name and, if there
is such a sign, its value. -/
def splitLong (text : List Char) : List Char × Option (List Char) :=
  match text.span (· ≠ '=') with
  | (name, []) => (name, none)
  | (name, _ :: value) => (name, some value)

/-- Read a long option, without its dashes. -/
def readLong (draft : Draft) (text : List Char) : Except UsageError Step :=
  let (name, value?) := splitLong text
  match longOption? name, value? with
  | none, _ => .error (.unknownOption (String.ofList text))
  | some (.valued valued), some value =>
      (draft.setValue valued value).map .next
  | some (.valued valued), none => .ok (.awaits draft valued)
  | some _, some _ => .error (.unexpectedValue (String.ofList text))
  | some (.information information), none => .ok (.information information)
  | some (.flag flag), none => (draft.setFlag flag).map .next

/-- Read one argument in front of the end of options. A single dash is a
file. -/
def readArgument (draft : Draft) (argument : String) :
    Except UsageError Step :=
  match argument.toList with
  | '-' :: '-' :: text => readLong draft text
  | '-' :: c :: rest => readShort draft (c :: rest)
  | _ => (draft.setFile argument).map .next

/-- Whether an argument reads as options, so that it cannot be a value. -/
def isOptions (argument : String) : Bool :=
  match argument.toList with
  | '-' :: _ :: _ => true
  | _ => false

/-- How the next argument is read. -/
inductive Mode where
  | options
  | value (valued : Valued)
  /-- Behind two dashes. -/
  | files

def readFrom : Draft → Mode → List String → Except UsageError Request
  | _, .value _, [] => .error .missingValue
  | draft, _, [] => draft.finish
  | draft, .files, argument :: rest =>
      match draft.setFile argument with
      | .error error => .error error
      | .ok draft => readFrom draft .files rest
  | draft, .value valued, argument :: rest =>
      if isOptions argument then .error .missingValue
      else
        match draft.setValue valued argument.toList with
        | .error error => .error error
        | .ok draft => readFrom draft .options rest
  | draft, .options, argument :: rest =>
      if argument = "--" then readFrom draft .files rest
      else
        match readArgument draft argument with
        | .error error => .error error
        | .ok (.information information) => .ok (.information information)
        | .ok (.next draft) => readFrom draft .options rest
        | .ok (.awaits draft valued) => readFrom draft (.value valued) rest

/-- The request that arguments make. -/
def readArguments (arguments : List String) : Except UsageError Request :=
  readFrom {} .options arguments

end Preflight.CommandLine
