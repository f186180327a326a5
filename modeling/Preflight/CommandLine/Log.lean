import Preflight.CommandLine.Moment

/-!
# Log

While it works, the program leaves log entries. Which of them are shown is
decided by directives, each of which sets a level for the targets that start
with its name; the directive with the longest name decides. What is shown is
written with the moment at which it is written.
-/

namespace Preflight.Log

/-- The levels of log entries, the most important first. -/
inductive Level where
  | error
  | warn
  | info
  | debug
  | trace
  deriving DecidableEq, Repr

namespace Level

/-- How talkative a level is. -/
def rank : Level → Nat
  | error => 1
  | warn => 2
  | info => 3
  | debug => 4
  | trace => 5

/-- The label of a level, padded to one width. -/
def label : Level → String
  | error => "ERROR"
  | warn => "WARN "
  | info => "INFO "
  | debug => "DEBUG"
  | trace => "TRACE"

/-- The escape sequences that start the colour of a level. -/
def color : Level → String
  | error => "\x1b[1m\x1b[31m"
  | warn => "\x1b[33m"
  | info => "\x1b[32m"
  | debug => "\x1b[34m"
  | trace => "\x1b[36m"

/-- The level with a name, in any case; `off` is no level. -/
def ofName? (name : List Char) : Option (Option Level) :=
  match String.ofList (name.map Char.toLower) with
  | "off" => some none
  | "error" => some (some .error)
  | "warn" => some (some .warn)
  | "info" => some (some .info)
  | "debug" => some (some .debug)
  | "trace" => some (some .trace)
  | _ => none

end Level

/-! ## Entries -/

/-- An entry of the log. -/
structure Entry where
  level : Level
  target : String
  message : String
  deriving DecidableEq, Repr

namespace Entry

/-- A message with its further lines indented. -/
def indentLines (message : String) : String :=
  String.ofList
    (message.toList.flatMap fun c =>
      if c = '\n' then "\n    ".toList else [c])

/-- A text between the sequences that start and end a colour. -/
def paint (colored : Bool) (start text : String) : String :=
  if colored then start ++ text ++ "\x1b[0m" else text

/-- The line of an entry that is written at a moment. With colours the
brackets around its head are dark and the label of its level has a colour. -/
def line (colored : Bool) (moment : Moment) (entry : Entry) : String :=
  let bracket := paint colored "\x1b[90m"
  bracket "[" ++ moment.text ++ " " ++
    paint colored entry.level.color entry.level.label ++ " " ++
    entry.target ++ bracket "]" ++ " " ++ indentLines entry.message ++ "\n"

end Entry

/-! ## Directives -/

/-- A directive lets entries through up to a level; without a level it lets
none through. -/
structure Directive where
  /-- What the targets start with that the directive is about; without a name
  it is about all. -/
  name? : Option String := none
  level : Option Level
  deriving DecidableEq, Repr

namespace Directive

def applies (directive : Directive) (target : String) : Bool :=
  directive.name?.all fun name => name.toList.isPrefixOf target.toList

/-- Whether the level of an entry is let through. -/
def admits (directive : Directive) (level : Level) : Bool :=
  directive.level.any fun most => level.rank ≤ most.rank

/-- How specific a directive is: the length of its name in bytes. -/
def rank (directive : Directive) : Nat :=
  (directive.name?.getD "").utf8ByteSize

/-- Of two directives the more specific one; of equally specific ones the
later. -/
def moreSpecific (chosen : Option Directive) (directive : Directive) :
    Option Directive :=
  match chosen with
  | none => some directive
  | some other =>
      if other.rank ≤ directive.rank then some directive else some other

/-- The directive that decides about a target. -/
def deciding? (directives : List Directive) (target : String) :
    Option Directive :=
  (directives.filter fun directive =>
    directive.applies target).foldl moreSpecific none

/-- Add a directive. It takes the place of one that has the same name. -/
def put (directives : List Directive) (directive : Directive) :
    List Directive :=
  if directives.any fun other => other.name? = directive.name? then
    directives.map fun other =>
      if other.name? = directive.name? then directive else other
  else directives ++ [directive]

end Directive

end Preflight.Log
