import Preflight.Yaml.Cursor

/-!
# Block scalars

A block scalar has a header and then lines, all indented at least as far as the
first of them. Literal blocks keep their lines; folded ones join them. The
chomping says what becomes of the line breaks at the end.
-/

namespace Preflight.Yaml

/-- What becomes of the line breaks at the end of a block. -/
inductive Chomping where
  | strip
  | clip
  | keep
  deriving DecidableEq, Repr

/-- The header of a block scalar. -/
structure BlockHeader where
  chomping : Chomping := .clip
  /-- The indentation relative to the parent, if it is given. -/
  indentation : Option Nat := none
  deriving Repr

/-- The chomping that a sign asks for. -/
def chomping? (c : Char) : Option Chomping :=
  if c = '+' then some .keep else if c = '-' then some .strip else none

/-- The indentation that a digit asks for; zero is no indentation. -/
def indentation? (c : Char) : Option Nat :=
  if '1' ≤ c ∧ c ≤ '9' then some (c.toNat - '0'.toNat) else none

/-- Read a block header: a sign and a digit in either order, both optional,
and then nothing but a comment on the line. Gives the place of the break. -/
def readBlockHeader (cursor : Cursor) :
    Option (BlockHeader × Cursor) := do
  let (header, count) : BlockHeader × Nat :=
    match cursor.rest with
    | c :: d :: _ =>
        match chomping? c, indentation? d, indentation? c, chomping? d with
        | some chomping, some digit, _, _ => (⟨chomping, some digit⟩, 2)
        | some chomping, none, _, _ => (⟨chomping, none⟩, 1)
        | none, _, some digit, some chomping => (⟨chomping, some digit⟩, 2)
        | none, _, some digit, none => (⟨.clip, some digit⟩, 1)
        | none, _, none, _ => ({}, 0)
    | [c] =>
        match chomping? c, indentation? c with
        | some chomping, _ => (⟨chomping, none⟩, 1)
        | none, some digit => (⟨.clip, some digit⟩, 1)
        | none, none => ({}, 0)
    | [] => ({}, 0)
  return (header, ← (cursor.advance count).lineEnd?)

/-- A line of a block: its characters, and the break that ends it unless the
text ends there. -/
abbrev BlockLine := List Char × Option Char

/-- The lines of a text with their breaks. -/
def blockLines : List Char → List BlockLine
  | [] => [([], none)]
  | c :: rest =>
      if isBreak c then ([], some c) :: blockLines rest
      else
        match blockLines rest with
        | [] => [([c], none)]
        | (line, ending) :: lines => (c :: line, ending) :: lines

/-- How many spaces a line starts with. -/
def spacesBefore (line : List Char) : Nat :=
  (line.takeWhile (· = ' ')).length

/-- The indentation of a block that does not give it: that of the first line
with content or of a longer line of spaces before it. A tab among the spaces
is refused. -/
def blockIndent? : (widest : Nat) → List BlockLine → Option Nat
  | widest, [] => some widest
  | widest, (line, ending) :: lines =>
      let spaces := spacesBefore line
      let widest := max widest spaces
      match (line.drop spaces).head? with
      | some c => if c = '\t' then none else some widest
      | none => if ending.isSome then blockIndent? widest lines else some widest

/-- The text of a block while its lines are read. -/
structure BlockText where
  /-- The text so far, reversed. -/
  reversed : List Char := []
  /-- The break that ended the last line with content, if any. -/
  leading : List Char := []
  /-- The breaks of blank lines since then. -/
  trailing : List Char := []
  /-- Whether the last line with content started with a blank. -/
  afterBlank : Bool := false
  deriving Repr

namespace BlockText

/-- Add a line with content. In a folded block a single break between two
lines becomes a space, unless one of them starts with a blank. -/
def addLine (isLiteral : Bool) (block : BlockText) (line : List Char)
    (ending : Option Char) : BlockText :=
  let startsBlank := line.head?.any isBlank
  let folds :=
    !isLiteral && block.leading.head? = some '\n' && !block.afterBlank &&
      !startsBlank
  let joint :=
    if folds then if block.trailing.isEmpty then [' '] else []
    else block.leading
  { reversed :=
      (joint ++ block.trailing ++ line).reverse ++ block.reversed
    leading := ending.toList
    trailing := []
    afterBlank := startsBlank }

/-- Add a blank line. -/
def addBreak (block : BlockText) (ending : Char) : BlockText :=
  { block with trailing := block.trailing ++ [ending] }

/-- The text with as many breaks at its end as the chomping keeps. -/
def finish (block : BlockText) (chomping : Chomping) : List Char :=
  block.reversed.reverse ++
    match chomping with
    | .strip => []
    | .clip => block.leading
    | .keep => block.leading ++ block.trailing

end BlockText

/-- Read the lines of a block, and give its text and how many characters make
it up. -/
def readBlockLines (isLiteral : Bool) (indent : Nat) : BlockText →
    (count : Nat) → List BlockLine → Option (BlockText × Nat)
  | block, count, [] => some (block, count)
  | block, count, (line, ending) :: lines =>
      let spaces := min indent (spacesBefore line)
      let behind := count + line.length + ending.toList.length
      match line.drop spaces, ending with
      | [], none => some (block, count)
      | [], some feed =>
          readBlockLines isLiteral indent (block.addBreak feed) behind lines
      | c :: content, _ =>
          if spaces = indent then
            readBlockLines isLiteral indent
              (block.addLine isLiteral (c :: content) ending) behind lines
          else if c = '\t' then none
          else some (block, count)

/-- Read the block scalar that starts here, in a block collection whose
entries have their content at column `floor` or further right. -/
def readBlock (isLiteral : Bool) (floor : Nat) (cursor : Cursor) :
    Option (List Char × Cursor) := do
  let (header, ending) ← readBlockHeader (cursor.advance 1)
  let start := ending.advance 1
  let lines := blockLines start.rest
  let indent ←
    match header.indentation with
    | some digit => some (floor - 1 + digit)
    | none => (blockIndent? 0 lines).map fun widest => max widest (max floor 1)
  let (block, count) ← readBlockLines isLiteral indent {} 0 lines
  return (block.finish header.chomping, start.advance count)

end Preflight.Yaml
