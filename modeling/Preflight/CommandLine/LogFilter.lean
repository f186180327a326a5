import Preflight.CommandLine.Log
import Preflight.Pattern.Reader

/-!
# Log filters

A filter of log entries consists of directives and of a pattern that has to
occur in a message. It is spelt as directives between commas and, behind a
slash, the pattern. What cannot be read in it is passed over with a warning.
-/

namespace Preflight.Log

/-- A filter of log entries. -/
structure Filter where
  directives : List Directive
  /-- What has to occur in the messages of entries that are shown. -/
  pattern? : Option Pattern := none
  deriving DecidableEq, Repr

namespace Filter

/-- The filter with one level for all targets. -/
def upTo (level : Level) : Filter := ⟨[{ level := some level }], none⟩

/-- Whether an entry is shown. -/
def shows (filter : Filter) (entry : Entry) : Bool :=
  ((Directive.deciding? filter.directives entry.target).any fun directive =>
      directive.admits entry.level) &&
    filter.pattern?.all fun pattern =>
      pattern.occursIn entry.message.toList

/-- The lines of the entries that are shown, the first of which is written at
the first moment of the clock. -/
def lines (filter : Filter) (colored : Bool) (clock : Nat → Moment)
    (entries : List Entry) : String :=
  String.join
    ((entries.filter filter.shows).mapIdx fun index entry =>
      entry.line colored (clock index))

end Filter

/-! ## Reading a filter -/

/-- What is wrong with the spelling of a filter. -/
inductive FilterFault where
  /-- There is more than one slash. -/
  | repeatedPattern (spelling : List Char)
  /-- A directive that cannot be read, or the level of one. -/
  | directive (piece : List Char)
  /-- A pattern that cannot be read. -/
  | pattern (spelling : List Char) (fault : Pattern.Fault)
  deriving DecidableEq, Repr

namespace FilterFault

def message : FilterFault → String
  | repeatedPattern spelling =>
      "invalid logging spec '" ++ String.ofList spelling ++
        "' (too many '/'s)"
  | directive piece => "invalid logging spec '" ++ String.ofList piece ++ "'"
  | pattern spelling fault =>
      "invalid regex filter - " ++ fault.message spelling

def warning (fault : FilterFault) : String :=
  "warning: " ++ fault.message ++ ", ignoring it\n"

end FilterFault

/-- A filter and what was wrong with its spelling. -/
structure FilterReading where
  filter : Filter
  faults : List FilterFault := []
  deriving DecidableEq, Repr

namespace FilterReading

def warnings (reading : FilterReading) : String :=
  String.join (reading.faults.map FilterFault.warning)

def trim (text : List Char) : List Char :=
  ((text.dropWhile Text.isSpace).reverse.dropWhile Text.isSpace).reverse

/-- The directive that a text spells: a level for all targets, a name with
everything let through, or a name and a level. -/
def directiveOf (text : List Char) : Except FilterFault Directive :=
  match text.splitOn '=' with
  | [single] =>
      match Level.ofName? single with
      | some level => .ok { level }
      | none => .ok ⟨some (String.ofList single), some .trace⟩
  | [name, value] =>
      let name := some (String.ofList name)
      if (trim value).isEmpty then .ok ⟨name, some .trace⟩
      else
        match Level.ofName? (trim value) with
        | some level => .ok ⟨name, level⟩
        | none => .error (.directive (trim value))
  | _ => .error (.directive text)

def addDirective (reading : FilterReading) (text : List Char) :
    FilterReading :=
  match directiveOf text with
  | .error fault => { reading with faults := reading.faults ++ [fault] }
  | .ok directive =>
      { reading with
        filter.directives :=
          Directive.put reading.filter.directives directive }

def addPattern (reading : FilterReading) (text : List Char) : FilterReading :=
  match Pattern.ofText text with
  | .error fault =>
      { reading with faults := reading.faults ++ [.pattern text fault] }
  | .ok pattern => { reading with filter.pattern? := some pattern }

/-- Let errors through if there is no directive. -/
def orErrors (reading : FilterReading) : FilterReading :=
  if reading.filter.directives.isEmpty then
    { reading with filter.directives := (Filter.upTo .error).directives }
  else reading

/-- Read the directives between commas. Empty ones are passed over. -/
def ofDirectives (text : List Char) : FilterReading :=
  (((text.splitOn ',').map trim).filter fun piece =>
    !piece.isEmpty).foldl addDirective { filter := ⟨[], none⟩ }

def ofText (text : List Char) : FilterReading :=
  match text.splitOn '/' with
  | [] => ofDirectives []
  | [directives] => ofDirectives directives
  | [directives, pattern] => (ofDirectives directives).addPattern pattern
  | _ => { filter := ⟨[], none⟩, faults := [.repeatedPattern text] }

/-- The filter that a text spells, with what is wrong with it. Without any
directive only errors are shown. -/
def ofString (text : String) : FilterReading := (ofText text.toList).orErrors

end FilterReading

end Preflight.Log
