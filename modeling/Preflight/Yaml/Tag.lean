import Preflight.Text.Digit
import Preflight.Yaml.Cursor

/-!
# Tags and directives

A tag says which type a node has. It is written in full between angles, or as a
suffix behind a handle that stands for the start of the tag. Directives at the
start of a document give its version and declare handles. Tags are made of
octets, each of which stands as the character with its code.
-/

namespace Preflight.Yaml

open Text (decimalValue hexValue?)

/-! ## Octets -/

/-- The characters that may stand unescaped in a tag. Brackets and commas are
among them where nothing else could be meant. -/
def isTagChar (brackets : Bool) (c : Char) : Bool :=
  isNameChar c || ";/?:@&=+$.!~*\x27()".toList.contains c ||
    (brackets && (c = ',' || c = '[' || c = ']'))

/-- How many octets follow the first octet of an encoded character. -/
def octetsBehind? (octet : Nat) : Option Nat :=
  if octet < 0x80 then some 0
  else if 0xc0 ≤ octet ∧ octet < 0xe0 then some 1
  else if 0xe0 ≤ octet ∧ octet < 0xf0 then some 2
  else if 0xf0 ≤ octet ∧ octet < 0xf8 then some 3
  else none

/-- How many octets are owed behind an octet, if `owed` were owed before
it. -/
def owedBehind? (owed octet : Nat) : Option Nat :=
  if owed = 0 then octetsBehind? octet
  else if 0x80 ≤ octet ∧ octet < 0xc0 then some (owed - 1)
  else none

/-- Read the characters and escaped octets of a tag. `owed` octets must still
follow to complete an encoded character. Gives the octets and how many
characters spell them. -/
def octetsFrom (brackets : Bool) : (owed : Nat) → List Char →
    Option (List Char × Nat)
  | owed, '%' :: high :: low :: rest => do
      let octet := 16 * (← hexValue? high) + (← hexValue? low)
      let (octets, count) ←
        octetsFrom brackets (← owedBehind? owed octet) rest
      return (Char.ofNat octet :: octets, count + 3)
  | 0, c :: rest => do
      if c = '%' then none
      else if isTagChar brackets c then
        let (octets, count) ← octetsFrom brackets 0 rest
        return (c :: octets, count + 1)
      else return ([], 0)
  | 0, [] => some ([], 0)
  | _ + 1, _ => none

/-- Read part of a tag. An octet of zero ends what counts of it. -/
def readOctets (brackets : Bool) (cursor : Cursor) :
    Option (String × Cursor) := do
  let (octets, count) ← octetsFrom brackets 0 cursor.rest
  return (String.ofList (octets.takeWhile fun c => c ≠ '\x00'),
    cursor.advance count)

/-- Read part of a tag that must not be missing. -/
def readSomeOctets (brackets : Bool) (cursor : Cursor) :
    Option (String × Cursor) := do
  let (octets, stop) ← readOctets brackets cursor
  if stop.place = cursor.place then none else return (octets, stop)

/-! ## Tags -/

/-- A tag as it is written. -/
inductive Tag where
  | verbatim (tag : String)
  | short (handle suffix : String)
  deriving DecidableEq, Repr

/-- The handles that need no declaration. -/
def standardHandles : List (String × String) :=
  [("!", "!"), ("!!", "tag:yaml.org,2002:")]

/-- The tag in full, if its handle is declared. The first declaration
counts. -/
def Tag.resolve? (handles : List (String × String)) : Tag → Option String
  | .verbatim tag => some tag
  | .short handle suffix =>
      (handles.lookup handle).map fun start => start ++ suffix

/-- The name behind an exclamation mark, whether another mark closes it, and
the place behind it. -/
def readHandle (cursor : Cursor) : List Char × Bool × Cursor :=
  let name := cursor.advance 1
  let stop := name.skipWhile isNameChar
  if stop.head? = some '!' then (name.span isNameChar, true, stop.advance 1)
  else (name.span isNameChar, false, stop)

def handleOf (name : List Char) : String :=
  String.ofList ('!' :: name ++ ['!'])

/-- Read a tag that is written in short. A lone exclamation mark is a tag of
its own. -/
def readShortTag (cursor : Cursor) : Option (Tag × Cursor) := do
  match readHandle cursor with
  | (name, true, behind) =>
      let (suffix, stop) ← readSomeOctets false behind
      return (.short (handleOf name) suffix, stop)
  | (name, false, behind) =>
      let (octets, stop) ← readOctets false behind
      let suffix := String.ofList name ++ octets
      return (if suffix = "" then .verbatim "!" else .short "!" suffix, stop)

/-- Read a tag that is written in full. -/
def readVerbatimTag (cursor : Cursor) : Option (Tag × Cursor) := do
  let (tag, stop) ← readSomeOctets true (cursor.advance 2)
  if stop.head? = some '>' then return (.verbatim tag, stop.advance 1)
  else none

/-- Read the tag that starts here. A gap follows it or, inside a flow
collection, a comma. -/
def readTag (inFlow : Bool) (cursor : Cursor) : Option (Tag × Cursor) := do
  let (tag, stop) ←
    if cursor.second? = some '<' then readVerbatimTag cursor
    else readShortTag cursor
  if isGap stop.head? || (inFlow && stop.head? = some ',') then
    return (tag, stop)
  else none

/-! ## Directives -/

/-- A directive. -/
inductive Directive where
  | version (major minor : Nat)
  | handle (handle start : String)
  deriving DecidableEq, Repr

/-- The greatest number of digits in a version. -/
def maxVersionDigits : Nat := 9

def readVersionNumber (cursor : Cursor) : Option (Nat × Cursor) :=
  let digits := cursor.span Char.isDigit
  if digits.isEmpty || maxVersionDigits < digits.length then none
  else some (decimalValue digits, cursor.advance digits.length)

def readVersion (cursor : Cursor) : Option (Directive × Cursor) := do
  let (major, point) ← readVersionNumber cursor
  if point.head? = some '.' then
    let (minor, stop) ← readVersionNumber (point.advance 1)
    return (.version major minor, stop)
  else none

/-- Read a handle and the start of the tags that it stands for. -/
def readDeclaration (cursor : Cursor) : Option (Directive × Cursor) := do
  if cursor.head? = some '!' then
    let (name, isClosed, stop) := readHandle cursor
    let handle ←
      if isClosed then some (handleOf name)
      else if name.isEmpty then some "!" else none
    if stop.head?.any isBlank then
      let (start, stop) ← readSomeOctets true (stop.skipWhile isBlank)
      if isGap stop.head? then return (.handle handle start, stop) else none
    else none
  else none

/-- Read the directive that starts here, and its line to the end. -/
def readDirective (cursor : Cursor) : Option (Directive × Cursor) := do
  let name := (cursor.advance 1).span isNameChar
  let behind := cursor.advance (1 + name.length)
  if isGap behind.head? then
    let operands := behind.skipWhile isBlank
    let (directive, stop) ←
      match String.ofList name with
      | "YAML" => readVersion operands
      | "TAG" => readDeclaration operands
      | _ => none
    let ending ← stop.lineEnd?
    return (directive, ending.advance 1)
  else none

end Preflight.Yaml
