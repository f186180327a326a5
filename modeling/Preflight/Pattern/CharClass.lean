import Preflight.Text.Fold
import Preflight.Text.Letter
import Preflight.Text.Space

/-!
# Character classes

A character class is built from ranges and properties by union, intersection,
complement and the folding of case. It is a value; which characters are in it
is said by `contains`.
-/

namespace Preflight.Pattern

/-- Properties of characters. -/
inductive Property where
  | space
  | wordPart
  | alphabetic
  | lowercase
  | uppercase
  /-- To be of one of these general categories. -/
  | category (among : List Text.Category)
  deriving DecidableEq, Repr

def Property.holds (c : Char) : Property → Bool
  | space => Text.isSpace c
  | wordPart => Text.isWordPart c
  | alphabetic => Text.isAlphabetic c
  | lowercase => Text.isLowercase c
  | uppercase => Text.isUppercase c
  | category among => among.contains (Text.category c)

/-- Which characters are taken to differ in case only. -/
inductive Folding where
  /-- The two cases of an ASCII letter. -/
  | ascii
  /-- Characters that are folded to the same one. -/
  | simple
  deriving DecidableEq, Repr

/-- The characters that differ from a character in case at most. -/
def Folding.mates (c : Char) : Folding → List Char
  | ascii => [c, Text.otherCase c]
  | simple => Text.caseMates c

/-- A class of characters. -/
inductive CharClass where
  | nothing
  /-- The characters between two, which are in it too. -/
  | range (first last : Char)
  | having (property : Property)
  | union (left right : CharClass)
  | intersection (left right : CharClass)
  | complement (inner : CharClass)
  /-- The characters that differ in case at most from one of the class. -/
  | folded (folding : Folding) (inner : CharClass)
  deriving DecidableEq, Repr

namespace CharClass

def contains : CharClass → Char → Bool
  | nothing, _ => false
  | range first last, c => first ≤ c && c ≤ last
  | having property, c => property.holds c
  | union left right, c => left.contains c || right.contains c
  | intersection left right, c => left.contains c && right.contains c
  | complement inner, c => !inner.contains c
  | folded folding inner, c => (folding.mates c).any fun mate =>
      inner.contains mate

def single (c : Char) : CharClass := range c c

def everything : CharClass := complement nothing

/-- The characters of the left class that are not in the right one. -/
def difference (left right : CharClass) : CharClass :=
  intersection left (complement right)

/-- The characters that are in one of two classes but not in both. -/
def symmetricDifference (left right : CharClass) : CharClass :=
  union (difference left right) (difference right left)

/-- The class itself, or its complement. -/
def negatedIf (negated : Bool) (inner : CharClass) : CharClass :=
  if negated then complement inner else inner

def ofRanges (ranges : List (Char × Char)) : CharClass :=
  ranges.foldl (fun union (first, last) => .union union (range first last))
    nothing

@[simp] theorem contains_single {c other : Char} :
    (single c).contains other = (c == other) := by
  have bounds : (c ≤ other ∧ other ≤ c) ↔ c = other :=
    ⟨fun both => Char.le_antisymm both.1 both.2,
      fun same => same ▸ ⟨Char.le_refl c, Char.le_refl c⟩⟩
  simp only [single, contains, ← Bool.decide_and, bounds]
  by_cases same : c = other <;> simp [same]

end CharClass

end Preflight.Pattern
