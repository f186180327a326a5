import Preflight.Text.Category
import Preflight.Text.Table.Letter

/-!
# Letters

What counts as a letter, a lower case letter, an upper case letter or a part of
a word outside ASCII follows from the general category of a character and from
a few lists of characters that are like letters.
-/

namespace Preflight.Text

/-- Whether a character lies in one of the closed ranges. -/
def isWithin (ranges : List (Nat × Nat)) (c : Char) : Bool :=
  ranges.any fun range => range.1 ≤ c.toNat && c.toNat ≤ range.2

/-- Letters, numbers that are letters, and what is like them. -/
def isAlphabetic (c : Char) : Bool :=
  (Category.letterNumber :: Category.letters).contains (category c) ||
    isWithin Table.alphabeticMarks c || isWithin Table.enclosedLetters c

/-- Lower case letters and what is like them. -/
def isLowercase (c : Char) : Bool :=
  category c = .lowercaseLetter || isWithin Table.lowercaseSigns c

/-- Upper case letters and what is like them. -/
def isUppercase (c : Char) : Bool :=
  category c = .uppercaseLetter || isWithin Table.uppercaseSigns c

def isDecimalDigit (c : Char) : Bool :=
  category c = .decimalNumber

/-- Parts of words of any script: alphabetic characters, marks, decimal
digits, connecting punctuation and the two joiners. -/
def isWordPart (c : Char) : Bool :=
  isAlphabetic c || Category.marks.contains (category c) ||
    isDecimalDigit c || category c = .connectorPunctuation ||
    c = '\u200c' || c = '\u200d'

end Preflight.Text
