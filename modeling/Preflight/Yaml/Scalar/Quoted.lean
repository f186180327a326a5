import Preflight.Text.Digit
import Preflight.Yaml.Cursor
import Preflight.Yaml.Scalar.Folding

/-!
# Quoted scalars

In single quotes a quote is written twice and everything else stands for
itself. In double quotes a backslash escapes. Line breaks fold in both, and a
document marker may stand in neither.
-/

namespace Preflight.Yaml

/-! ## Single quotes -/

/-- Read the rest of a scalar in single quotes. `quoted` says that a quote has
just been read: a second one makes it part of the text, and anything else
shows that it was the last. -/
def singleFrom : (quoted : Bool) → (reversed : List Char) → Pending → Place →
    List Char → Option (List Char × Cursor)
  | true, reversed, _, place, [] => some (reversed.reverse, ⟨[], place⟩)
  | false, _, _, _, [] => none
  | true, reversed, _, place, c :: rest =>
      if c = '\x27' then
        singleFrom false (c :: reversed) {} (place.after c) rest
      else some (reversed.reverse, ⟨c :: rest, place⟩)
  | false, reversed, pending, place, c :: rest =>
      if Cursor.atMarker ⟨c :: rest, place⟩ then none
      else if isBreak c then
        singleFrom false reversed (pending.addBreak c) (place.after c) rest
      else if isBlank c then
        singleFrom false reversed (pending.addBlank c) (place.after c) rest
      else
        let joined := (pending.text false).reverse ++ reversed
        if c = '\x27' then singleFrom true joined {} (place.after c) rest
        else singleFrom false (c :: joined) {} (place.after c) rest

/-- Read the scalar in single quotes that starts here. -/
def readSingle (cursor : Cursor) : Option (List Char × Cursor) :=
  let inside := cursor.advance 1
  singleFrom false [] {} inside.place inside.rest

/-! ## Double quotes -/

/-- The state of reading a scalar in double quotes. -/
inductive DoubleState where
  | text
  /-- A backslash has just been read. -/
  | escape
  /-- So many digits of a character code are still to come. -/
  | code (digits value : Nat)
  deriving Repr

/-- The characters that a one-letter escape denotes. -/
def escaped? (letter : Char) : Option Char :=
  match letter with
  | '0' => some '\x00'
  | 'a' => some '\x07'
  | 'b' => some '\x08'
  | 't' => some '\t'
  | '\t' => some '\t'
  | 'n' => some '\n'
  | 'v' => some '\x0b'
  | 'f' => some '\x0c'
  | 'r' => some '\r'
  | 'e' => some '\x1b'
  | ' ' => some ' '
  | '"' => some '"'
  | '/' => some '/'
  | '\\' => some '\\'
  | 'N' => some '\x85'
  | '_' => some '\xa0'
  | 'L' => some '\u2028'
  | 'P' => some '\u2029'
  | _ => none

/-- How many digits follow the letter of an escape by code. -/
def codeLength? (letter : Char) : Option Nat :=
  match letter with
  | 'x' => some 2
  | 'u' => some 4
  | 'U' => some 8
  | _ => none

def charOfCode? (code : Nat) : Option Char :=
  if code.isValidChar then some (Char.ofNat code) else none

/-- Read the rest of a scalar in double quotes. `escapedEnd` says that the
last line ended in an escaped break. -/
def doubleFrom : DoubleState → (escapedEnd : Bool) →
    (reversed : List Char) → Pending → Place → List Char →
    Option (List Char × Cursor)
  | _, _, _, _, _, [] => none
  | .code digits value, _, reversed, _, place, c :: rest =>
      match Text.hexValue? c, digits with
      | none, _ | _, 0 => none
      | some digit, 1 =>
          match charOfCode? (16 * value + digit) with
          | none => none
          | some denoted =>
              doubleFrom .text false (denoted :: reversed) {} (place.after c)
                rest
      | some digit, digits + 1 =>
          doubleFrom (.code digits (16 * value + digit)) false reversed {}
            (place.after c) rest
  | .escape, _, reversed, _, place, c :: rest =>
      if isBreak c then
        doubleFrom .text true reversed .escapedBreak (place.after c) rest
      else
        match escaped? c, codeLength? c with
        | some denoted, _ =>
            doubleFrom .text false (denoted :: reversed) {} (place.after c)
              rest
        | none, some digits =>
            doubleFrom (.code digits 0) false reversed {} (place.after c) rest
        | none, none => none
  | .text, escapedEnd, reversed, pending, place, c :: rest =>
      if Cursor.atMarker ⟨c :: rest, place⟩ then none
      else if isBreak c then
        doubleFrom .text escapedEnd reversed (pending.addBreak c)
          (place.after c) rest
      else if isBlank c then
        doubleFrom .text escapedEnd reversed (pending.addBlank c)
          (place.after c) rest
      else
        let joined := (pending.text escapedEnd).reverse ++ reversed
        if c = '"' then some (joined.reverse, ⟨rest, place.after c⟩)
        else if c = '\\' then
          doubleFrom .escape false joined {} (place.after c) rest
        else
          doubleFrom .text false (c :: joined) {} (place.after c) rest

/-- Read the scalar in double quotes that starts here. -/
def readDouble (cursor : Cursor) : Option (List Char × Cursor) :=
  let inside := cursor.advance 1
  doubleFrom .text false [] {} inside.place inside.rest

end Preflight.Yaml
