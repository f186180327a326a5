import Preflight.Text.Digit
import Preflight.Text.Table.Category

/-!
# General categories

Every character has one of thirty general categories. They are found in a table
of runs, each of which reaches up to the next.
-/

namespace Preflight.Text

/-- The general categories of characters. -/
inductive Category where
  | uppercaseLetter
  | lowercaseLetter
  | titlecaseLetter
  | modifierLetter
  | otherLetter
  | nonspacingMark
  | spacingMark
  | enclosingMark
  | decimalNumber
  | letterNumber
  | otherNumber
  | connectorPunctuation
  | dashPunctuation
  | openPunctuation
  | closePunctuation
  | initialPunctuation
  | finalPunctuation
  | otherPunctuation
  | mathSymbol
  | currencySymbol
  | modifierSymbol
  | otherSymbol
  | spaceSeparator
  | lineSeparator
  | paragraphSeparator
  | control
  | format
  | surrogate
  | privateUse
  | unassigned
  deriving DecidableEq, Repr

namespace Category

def symbol : Category → String
  | uppercaseLetter => "Lu"
  | lowercaseLetter => "Ll"
  | titlecaseLetter => "Lt"
  | modifierLetter => "Lm"
  | otherLetter => "Lo"
  | nonspacingMark => "Mn"
  | spacingMark => "Mc"
  | enclosingMark => "Me"
  | decimalNumber => "Nd"
  | letterNumber => "Nl"
  | otherNumber => "No"
  | connectorPunctuation => "Pc"
  | dashPunctuation => "Pd"
  | openPunctuation => "Ps"
  | closePunctuation => "Pe"
  | initialPunctuation => "Pi"
  | finalPunctuation => "Pf"
  | otherPunctuation => "Po"
  | mathSymbol => "Sm"
  | currencySymbol => "Sc"
  | modifierSymbol => "Sk"
  | otherSymbol => "So"
  | spaceSeparator => "Zs"
  | lineSeparator => "Zl"
  | paragraphSeparator => "Zp"
  | control => "Cc"
  | format => "Cf"
  | surrogate => "Cs"
  | privateUse => "Co"
  | unassigned => "Cn"

def all : List Category :=
  [uppercaseLetter, lowercaseLetter, titlecaseLetter, modifierLetter,
    otherLetter, nonspacingMark, spacingMark, enclosingMark, decimalNumber,
    letterNumber, otherNumber, connectorPunctuation, dashPunctuation,
    openPunctuation, closePunctuation, initialPunctuation, finalPunctuation,
    otherPunctuation, mathSymbol, currencySymbol, modifierSymbol, otherSymbol,
    spaceSeparator, lineSeparator, paragraphSeparator, control, format,
    surrogate, privateUse, unassigned]

def ofSymbol? (symbol : List Char) : Option Category :=
  all.find? fun category => category.symbol.toList = symbol

def letters : List Category :=
  [uppercaseLetter, lowercaseLetter, titlecaseLetter, modifierLetter,
    otherLetter]

def casedLetters : List Category :=
  [uppercaseLetter, lowercaseLetter, titlecaseLetter]

def marks : List Category := [nonspacingMark, spacingMark, enclosingMark]

def numbers : List Category := [decimalNumber, letterNumber, otherNumber]

def punctuation : List Category :=
  [connectorPunctuation, dashPunctuation, openPunctuation, closePunctuation,
    initialPunctuation, finalPunctuation, otherPunctuation]

def signs : List Category :=
  [mathSymbol, currencySymbol, modifierSymbol, otherSymbol]

def separators : List Category :=
  [spaceSeparator, lineSeparator, paragraphSeparator]

/-- The categories of everything else. -/
def others : List Category :=
  [control, format, surrogate, privateUse, unassigned]

end Category

/-- The run that a piece of the table spells: its first code and its
category. -/
def categoryRun? (piece : List Char) : Option (Nat × Category) := do
  let (code, symbol) := piece.span fun c => !c.isUpper
  return (← numberInBase? 16 code, ← Category.ofSymbol? symbol)

/-- The runs of characters of one category, in the order of their first
codes. -/
def categoryRuns : Array (Nat × Category) :=
  (Table.categoryRows.flatMap fun row =>
    (row.toList.splitOn ' ').filterMap categoryRun?).toArray

/-- The category of the last run that starts at a code or below it, if one of
the runs from `low` on and in front of `high` does, by halving. -/
def categoryBetween (code : Nat) : (fuel low high : Nat) → Category → Category
  | 0, _, _, found => found
  | fuel + 1, low, high, found =>
      let middle := (low + high) / 2
      if low < high then
        match categoryRuns[middle]? with
        | some (first, category) =>
            if first ≤ code then
              categoryBetween code fuel (middle + 1) high category
            else categoryBetween code fuel low middle found
        | none => found
      else found

def category (c : Char) : Category :=
  categoryBetween c.toNat categoryRuns.size 0 categoryRuns.size .unassigned

end Preflight.Text
