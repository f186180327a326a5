import Preflight.Pattern.Reader.Bracket
import Preflight.Pattern.Reader.Group

/-!
# Reading a pattern

A pattern is a choice between rows of items, some of which are repeated. It is
read in one pass; groups are read by recursion.
-/

namespace Preflight.Pattern

/-- An item of a row: a pattern, or flags, which cannot be repeated. -/
inductive Item where
  | pattern (found : Pattern)
  | flags
  deriving DecidableEq, Repr

def Item.toPattern : Item → Pattern
  | .pattern found => found
  | .flags => .empty

/-- How often an item is repeated. -/
structure Bounds where
  least : Nat
  most : Option Nat
  deriving DecidableEq, Repr

/-- Whether the upper bound is not below the lower one. -/
def Bounds.inOrder (bounds : Bounds) : Bool :=
  bounds.most.all fun most => bounds.least ≤ most

/-- The row and the rows before it in a choice, both backwards. -/
structure Branches where
  done : List Pattern := []
  row : List Item := []
  deriving Repr

namespace Branches

def add (branches : Branches) (item : Item) : Branches :=
  { branches with row := item :: branches.row }

def rowPattern (branches : Branches) : Pattern :=
  inSequence (branches.row.reverse.map Item.toPattern)

/-- The branches with a new row. -/
def split (branches : Branches) : Branches :=
  { done := branches.rowPattern :: branches.done }

def toPattern (branches : Branches) : Pattern :=
  match (branches.rowPattern :: branches.done).reverse with
  | [] => .empty
  | first :: others => inChoice first others

end Branches

namespace Read

/-! ## Atoms -/

/-- The assertion of a line anchor, which holds at the ends of the text only
unless every line has anchors of its own. -/
def lineAnchor (atStart : Bool) : Read Assertion := do
  let flags ← flags
  match flags.lineWise, atStart with
  | true, true => return .lineStart flags.lineEnd
  | true, false => return .lineFinish flags.lineEnd
  | false, true => return .textStart
  | false, false => return .textFinish

/-- What the dot admits. -/
def dotClass : Read CharClass := do
  let flags ← flags
  if flags.dotAll then return .everything
  else if flags.returns then
    return .complement (.ofRanges [('\n', '\n'), ('\r', '\r')])
  else return .complement (.single '\n')

def atomPattern (placed : Placed) : Read Pattern := do
  let flags ← flags
  match placed.atom with
  | .literal c => return .one (flags.foldCase (.single c))
  | .byte c =>
      if !flags.unicode && 128 ≤ c.toNat then object placed.span .brokenText
      return .one (flags.foldCase (.single c))
  | .dot =>
      if !flags.unicode then object placed.span .brokenText
      return .one (← dotClass)
  | .named among => return .one among
  | .assertion assertion => return .gap assertion

/-- The next atom. -/
def atom (c : Char) : Read Placed := do
  if c = '\\' then escape
  else
    let start ← position
    skip
    let span : Span := ⟨start, start + 1⟩
    match c with
    | '.' => return ⟨.dot, span⟩
    | '^' => return ⟨.assertion (← lineAnchor true), span⟩
    | '$' => return ⟨.assertion (← lineAnchor false), span⟩
    | _ => return ⟨.literal c, span⟩

/-! ## Repetition -/

/-- The item at the end of a row that an operator here repeats, and the branches
without it. -/
def toRepeat (branches : Branches) : Read (Pattern × Branches) := do
  match branches.row with
  | .pattern pattern :: row => return (pattern, { branches with row })
  | _ => failHere .nothingToRepeat

/-- Pass over the question mark that makes a repetition lazy. -/
def skipLazy : Read Unit := do
  let _ ← accept "?"

/-- The number that comes next, or what is wrong with it. -/
def count : Read (Except Fault Nat) := do
  skipSpaces
  let start ← position
  let digits ← spanWhile Char.isDigit
  let span : Span := ⟨start, ← position⟩
  skipSpaces
  if digits.isEmpty then return .error ⟨span, .emptyCount⟩
  else
    let number := Text.decimalValue digits
    if 4294967296 ≤ number then return .error ⟨span, .oversizedCount⟩
    else return .ok number

/-- The bounds in braces, whose opening comes next. -/
def bounds : Read Bounds := do
  let start ← position
  let checkOpen : Read Unit := do
    if (← next?).isNone then failFrom start .unclosedCount
  advance
  checkOpen
  let least ← count
  checkOpen
  let found : Bounds ←
    if (← next?) = some ',' then
      advance
      checkOpen
      if (← next?) = some '\x7d' then pure ⟨← least, none⟩
      else
        let least ← least
        pure ⟨least, some (← (← count))⟩
    else
      let least ← least
      pure ⟨least, some least⟩
  if (← next?) ≠ some '\x7d' then failFrom start .unclosedCount
  advance
  skipLazy
  if found.inOrder then return found
  else failFrom start .decreasingCounts

/-- The bounds of the repetition that a character stands for. -/
def operator? : Char → Option Bounds
  | '?' => some ⟨0, some 1⟩
  | '*' => some ⟨0, none⟩
  | '+' => some ⟨1, none⟩
  | _ => none

/-! ## Rows and choices -/

/-- The branches up to the end of the group, whose opening is given, or of the
whole text. -/
def branches : (fuel : Nat) → (opening : Option Span) → Branches →
    Read Pattern
  | 0, _, branches => return branches.toPattern
  | fuel + 1, opening, found => do
      skipBlanks
      match ← next? with
      | none =>
          match opening with
          | some span => throw ⟨span, .unclosedGroup⟩
          | none => return found.toPattern
      | some ')' =>
          if opening.isNone then failAtNext .unopenedGroup
          skip
          return found.toPattern
      | some '|' =>
          skip
          branches fuel opening found.split
      | some '(' =>
          let start ← position
          let outer ← flags
          match ← groupStart with
          | .flags flags =>
              modify fun reading => { reading with flags }
              branches fuel opening (found.add .flags)
          | .group flags =>
              modify fun reading => { reading with flags }
              let inner ← branches fuel (some ⟨start, start + 1⟩) {}
              modify fun reading => { reading with flags := outer }
              branches fuel opening (found.add (.pattern inner))
      | some '[' =>
          let among ← bracketed
          branches fuel opening (found.add (.pattern (.one among)))
      | some '\x7b' =>
          let (body, found) ← toRepeat found
          let ⟨least, most⟩ ← bounds
          branches fuel opening
            (found.add (.pattern (.repeated least most body)))
      | some c =>
          match operator? c with
          | some ⟨least, most⟩ =>
              let (body, found) ← toRepeat found
              skip
              skipLazy
              branches fuel opening
                (found.add (.pattern (.repeated least most body)))
          | none =>
              let pattern ← atomPattern (← atom c)
              branches fuel opening (found.add (.pattern pattern))

end Read

def ofText (text : List Char) : Except Fault Pattern := do
  let start : Reading := { size := text.length, rest := text }
  let (pattern, reading) ←
    (Read.branches (text.length + 1) none {}).run start
  match reading.objection? with
  | some fault => throw fault
  | none => return pattern

end Preflight.Pattern
