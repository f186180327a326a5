import Preflight.Text.Table.Fold

/-!
# Case folding

Characters that differ only in case are folded to the same character. Folding
is simple: it maps one character to one.
-/

namespace Preflight.Text

/-- A row of the folding table: the codes from the first to the last in steps,
and what the first is mapped to. -/
structure FoldRow where
  first : Nat
  last : Nat
  step : Nat
  target : Nat
  deriving DecidableEq, Repr

namespace FoldRow

/-- What a row maps a code to. -/
def fold? (row : FoldRow) (code : Nat) : Option Nat :=
  if row.first ≤ code ∧ code ≤ row.last ∧
      (code - row.first) % row.step = 0 then
    some (row.target + (code - row.first))
  else none

/-- The code that a row maps to another. -/
def source? (row : FoldRow) (folded : Nat) : Option Nat :=
  if row.target ≤ folded ∧ row.first + (folded - row.target) ≤ row.last ∧
      (folded - row.target) % row.step = 0 then
    some (row.first + (folded - row.target))
  else none

end FoldRow

/-- The rows of the folding table. -/
def foldRows : List FoldRow :=
  Table.foldRows.map fun (first, last, step, target) =>
    ⟨first, last, step, target⟩

def fold (c : Char) : Char :=
  match foldRows.findSome? fun row => row.fold? c.toNat with
  | some code => Char.ofNat code
  | none => c

/-- The characters that are folded to the same character as this one. -/
def caseMates (c : Char) : List Char :=
  let folded := fold c
  folded ::
    (foldRows.filterMap fun row => row.source? folded.toNat).map Char.ofNat

/-- The other case of an ASCII letter; any other character itself. -/
def otherCase (c : Char) : Char :=
  if c.isUpper then c.toLower else c.toUpper

end Preflight.Text
