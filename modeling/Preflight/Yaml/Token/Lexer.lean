import Preflight.Yaml.Scalar.Block
import Preflight.Yaml.Scalar.Plain
import Preflight.Yaml.Scalar.Quoted
import Preflight.Yaml.Token

/-!
# Reading YAML tokens

A lexer takes one token after the other off the front of a text. Outside flow
collections it keeps the columns of the open block collections: what starts
further right than the innermost may open another one, and what starts further
left closes some.

A key is known as a key only when the colon behind it is read. So the lexer
remembers where a key may have started, one such place for each open flow
collection and one for the text around them. When the colon comes, the token
that announces the key is put in front of it after the fact. A key stands on
one line and is not too long.
-/

namespace Preflight.Yaml

/-- A place where a key may have started. -/
structure KeyStart where
  /-- How many tokens stand in front of the key. -/
  position : Nat
  place : Place
  /-- Whether nothing but a key can stand at this place. -/
  isRequired : Bool
  deriving DecidableEq, Repr

/-- The greatest length of a key in bytes. -/
def maxKeyLength : Nat := 1024

namespace KeyStart

/-- Whether a key that starts here may end at a place. -/
def reaches (start : KeyStart) (place : Place) : Bool :=
  place.line ≤ start.place.line &&
    place.index ≤ start.place.index + maxKeyLength

/-- The start of a key at a later place: itself as long as the key may go on,
and then nothing, unless there had to be a key. -/
def refresh? (place : Place) : Option KeyStart → Option (Option KeyStart)
  | none => some none
  | some start =>
      if start.reaches place then some (some start)
      else if start.isRequired then none
      else some none

end KeyStart

/-- A lexer. -/
structure Lexer where
  cursor : Cursor
  /-- The tokens so far, the last one first. -/
  tokens : List Token := []
  /-- How many they are. -/
  count : Nat := 0
  /-- For each open block collection, innermost first, the least column of the
  content of its entries. -/
  floors : List Nat := []
  /-- Where a key may have started. -/
  keyStart : Option KeyStart := none
  /-- The same for what surrounds each open flow collection, innermost
  first. -/
  outerStarts : List (Option KeyStart) := []
  /-- Whether a key may start here. -/
  allowsKey : Bool := true
  deriving Repr

namespace Lexer

/-- Whether a flow collection is open. -/
def inFlow (lexer : Lexer) : Bool := !lexer.outerStarts.isEmpty

/-- The least column of the content of an entry. -/
def floor (lexer : Lexer) : Nat := lexer.floors.head?.getD 0

def column (lexer : Lexer) : Nat := lexer.cursor.place.column

/-- Add a token behind the first `position` tokens. -/
def insert (position : Nat) (token : Token) (lexer : Lexer) : Lexer :=
  let later := lexer.count - position
  { lexer with
    tokens := lexer.tokens.take later ++ token :: lexer.tokens.drop later
    count := lexer.count + 1 }

/-- Add a token and go on at a place behind it. -/
def emit (token : Token) (stop : Cursor) (lexer : Lexer) : Lexer :=
  { lexer with
    tokens := token :: lexer.tokens
    count := lexer.count + 1
    cursor := stop }

/-- Add a token for the next `length` characters. -/
def take (length : Nat) (token : Token) (lexer : Lexer) : Lexer :=
  lexer.emit token (lexer.cursor.advance length)

/-! ## Block collections -/

/-- Open a block collection at a column, unless it is the column of the one
that is open. -/
def openBlock (start : Token) (column position : Nat) (lexer : Lexer) :
    Lexer :=
  if lexer.inFlow || column < lexer.floor then lexer
  else
    { lexer.insert position start with
      floors := (column + 1) :: lexer.floors }

def openBlockHere (start : Token) (lexer : Lexer) : Lexer :=
  lexer.openBlock start lexer.column lexer.count

/-- Close the block collections whose content stands further right than
`limit`. -/
def closeBlocks (limit : Nat) (lexer : Lexer) : Lexer :=
  if lexer.inFlow then lexer
  else
    let closed := lexer.floors.takeWhile (limit < ·)
    { lexer with
      tokens := List.replicate closed.length .blockEnd ++ lexer.tokens
      count := lexer.count + closed.length
      floors := lexer.floors.drop closed.length }

/-! ## Keys -/

/-- Whether the next character stands where an entry of the innermost block
collection starts. -/
def atEntry (lexer : Lexer) : Bool :=
  !lexer.inFlow && lexer.floor = lexer.column + 1

/-- No key has started, after all; refused where there had to be one. -/
def dropKey (lexer : Lexer) : Option Lexer :=
  if lexer.keyStart.any (·.isRequired) then none
  else some { lexer with keyStart := none }

/-- A key may start here, if one is allowed. -/
def offerKey (lexer : Lexer) : Option Lexer :=
  if lexer.allowsKey then
    lexer.dropKey.map fun dropped =>
      { dropped with
        keyStart := some ⟨lexer.count, lexer.cursor.place, lexer.atEntry⟩ }
  else some lexer

/-! ## White space -/

/-- The next place with content behind a place given by its parts, and whether
a key may start there. Tabs are passed over only where they could not be taken
for indentation. -/
def contentFrom (inFlow : Bool) : (allowsKey inComment : Bool) → Place →
    List Char → Bool × Cursor
  | allowsKey, _, place, [] => (allowsKey, ⟨[], place⟩)
  | allowsKey, inComment, place, c :: rest =>
      if isBreak c then
        contentFrom inFlow (allowsKey || !inFlow) false (place.after c) rest
      else if inComment || c = '#' then
        contentFrom inFlow allowsKey true (place.after c) rest
      else if c = ' ' || (c = '\t' && (inFlow || !allowsKey)) ||
          (c = byteOrderMark && place.column = 0) then
        contentFrom inFlow allowsKey false (place.after c) rest
      else (allowsKey, ⟨c :: rest, place⟩)

/-- Go on to the next place with content, and close what its column closes. -/
def toContent (lexer : Lexer) : Option Lexer := do
  let (allowsKey, cursor) :=
    contentFrom lexer.inFlow lexer.allowsKey false lexer.cursor.place
      lexer.cursor.rest
  let keyStart ← KeyStart.refresh? cursor.place lexer.keyStart
  let outerStarts ← lexer.outerStarts.mapM (KeyStart.refresh? cursor.place)
  return closeBlocks (cursor.place.column + 1)
    { lexer with cursor, allowsKey, keyStart, outerStarts }

/-! ## Documents -/

/-- Close all that is open in front of a directive or a marker. -/
def closeDocument (lexer : Lexer) : Option Lexer :=
  (lexer.closeBlocks 0).dropKey.map fun closed =>
    { closed with allowsKey := false }

def takeMarker (marker : Token) (lexer : Lexer) : Option Lexer :=
  lexer.closeDocument.map (take 3 marker)

def takeDirective (lexer : Lexer) : Option Lexer := do
  let closed ← lexer.closeDocument
  let (directive, stop) ← readDirective closed.cursor
  return closed.emit (.directive directive) stop

/-! ## Flow collections -/

def takeOpening (opening : Token) (lexer : Lexer) : Option Lexer := do
  let offered ← lexer.offerKey
  return {
    offered.take 1 opening with
    keyStart := none
    outerStarts := offered.keyStart :: offered.outerStarts
    allowsKey := true }

def takeClosing (closing : Token) (lexer : Lexer) : Option Lexer := do
  let dropped ← lexer.dropKey
  return {
    dropped.take 1 closing with
    keyStart := dropped.outerStarts.head?.getD none
    outerStarts := dropped.outerStarts.tail
    allowsKey := false }

def takeComma (lexer : Lexer) : Option Lexer := do
  let dropped ← lexer.dropKey
  return { dropped.take 1 .comma with allowsKey := true }

/-! ## Entries -/

def takeItem (lexer : Lexer) : Option Lexer := do
  if lexer.inFlow || lexer.allowsKey then
    let dropped ← (lexer.openBlockHere .sequenceStart).dropKey
    return { dropped.take 1 .item with allowsKey := true }
  else none

def takeKey (lexer : Lexer) : Option Lexer := do
  if lexer.inFlow || lexer.allowsKey then
    let dropped ← (lexer.openBlockHere .mappingStart).dropKey
    return { dropped.take 1 .key with allowsKey := !lexer.inFlow }
  else none

/-- Take the colon in front of a value. If a key may have started, this colon
ends it. -/
def takeValue (lexer : Lexer) : Option Lexer :=
  match lexer.keyStart with
  | some start =>
      let announced :=
        (lexer.insert start.position .key).openBlock .mappingStart
          start.place.column start.position
      some {
        announced.take 1 .value with
        keyStart := none
        allowsKey := false }
  | none =>
      if lexer.inFlow || lexer.allowsKey then
        some {
          (lexer.openBlockHere .mappingStart).take 1 .value with
          allowsKey := !lexer.inFlow }
      else none

/-! ## Nodes -/

def readName (cursor : Cursor) : Option (String × Cursor) :=
  let start := cursor.advance 1
  let name := start.span isNameChar
  let stop := start.advance name.length
  if name.isEmpty then none
  else if isGap stop.head? ||
      stop.head?.any ("?:,]\x7d%@\x60".toList.contains ·) then
    some (String.ofList name, stop)
  else none

/-- Take a token that may be or start a key, behind which no key may start. -/
def takeProperty (read? : Cursor → Option (Token × Cursor)) (lexer : Lexer) :
    Option Lexer := do
  let offered ← lexer.offerKey
  let (token, stop) ← read? offered.cursor
  return { offered.emit token stop with allowsKey := false }

def scalarToken (style : Style) (text : List Char) : Token :=
  .scalar style (String.ofList text)

def takeQuoted (read? : Cursor → Option (List Char × Cursor))
    (lexer : Lexer) : Option Lexer :=
  lexer.takeProperty fun cursor =>
    (read? cursor).map fun (text, stop) => (scalarToken .quoted text, stop)

/-- Take a plain scalar. A key may start behind it if a line has ended
there. -/
def takePlain (lexer : Lexer) : Option Lexer := do
  let offered ← lexer.offerKey
  let (text, broken, stop) ←
    readPlain offered.inFlow offered.floor offered.cursor
  return {
    offered.emit (scalarToken .plain text) stop with
    allowsKey := broken }

def takeBlock (style : Style) (lexer : Lexer) : Option Lexer := do
  let dropped ← lexer.dropKey
  let (text, stop) ←
    readBlock (style = .literal) dropped.floor dropped.cursor
  return { dropped.emit (scalarToken style text) stop with allowsKey := true }

/-! ## The whole text -/

/-- Take the token that starts here with a character. -/
def takeToken (c : Char) (lexer : Lexer) : Option Lexer :=
  let cursor := lexer.cursor
  let isApart := isGap cursor.second?
  if lexer.column = 0 && c = '%' then lexer.takeDirective
  else if cursor.startsMarker "---" then lexer.takeMarker .documentStart
  else if cursor.startsMarker "..." then lexer.takeMarker .documentEnd
  else if c = '[' then lexer.takeOpening .leftBracket
  else if c = '\x7b' then lexer.takeOpening .leftBrace
  else if c = ']' then lexer.takeClosing .rightBracket
  else if c = '\x7d' then lexer.takeClosing .rightBrace
  else if c = ',' then lexer.takeComma
  else if c = '-' && isApart then lexer.takeItem
  else if c = '?' && (lexer.inFlow || isApart) then lexer.takeKey
  else if c = ':' && (lexer.inFlow || isApart) then lexer.takeValue
  else if c = '*' then
    lexer.takeProperty fun cursor =>
      (readName cursor).map fun (name, stop) => (.reference name, stop)
  else if c = '&' then
    lexer.takeProperty fun cursor =>
      (readName cursor).map fun (name, stop) => (.anchor name, stop)
  else if c = '!' then
    lexer.takeProperty fun cursor =>
      (readTag lexer.inFlow cursor).map fun (tag, stop) => (.tag tag, stop)
  else if c = '|' && !lexer.inFlow then lexer.takeBlock .literal
  else if c = '>' && !lexer.inFlow then lexer.takeBlock .folded
  else if c = '\x27' then lexer.takeQuoted readSingle
  else if c = '"' then lexer.takeQuoted readDouble
  else if startsPlain lexer.inFlow cursor then lexer.takePlain
  else none

/-- The tokens at the end of the text. -/
def finish? (lexer : Lexer) : Option (List Token) :=
  lexer.closeDocument.map (·.tokens.reverse)

/-- Take tokens up to the end of the text. -/
def run? : (fuel : Nat) → Lexer → Option (List Token)
  | 0, _ => none
  | fuel + 1, lexer => do
      let next ← lexer.toContent
      match next.cursor.head? with
      | none => next.finish?
      | some c => run? fuel (← next.takeToken c)

end Lexer

/-- The tokens of a text in which line breaks are uniform. Each token takes at
least one character, so the length of the text bounds their number. -/
def tokens? (text : List Char) : Option (List Token) :=
  Lexer.run? (text.length + 1) { cursor := ⟨text, {}⟩ }

end Preflight.Yaml
