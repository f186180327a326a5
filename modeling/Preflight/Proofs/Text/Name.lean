import Preflight.Text.Word

/-!
# Names in a program

What may serve as a name in a program, letter by letter.
-/

namespace Preflight.Text

/-- The letters of ASCII. -/
def IsLetter (c : Char) : Prop :=
  'A' ≤ c ∧ c ≤ 'Z' ∨ 'a' ≤ c ∧ c ≤ 'z'

/-- A letter or an underscore in front, and letters, digits and underscores
behind it. -/
def IsName (name : List Char) : Prop :=
  ∃ first more,
    name = first :: more ∧ (IsLetter first ∨ first = '_') ∧
      ∀ c ∈ more, IsLetter c ∨ '0' ≤ c ∧ c ≤ '9' ∨ c = '_'

theorem isAlpha_iff {c : Char} : c.isAlpha = true ↔ IsLetter c := by
  delta Char.isAlpha Char.isUpper Char.isLower
  simp only [Bool.or_eq_true, Bool.and_eq_true, decide_eq_true_eq, IsLetter]
  rfl

theorem isDigit_iff {c : Char} : c.isDigit = true ↔ '0' ≤ c ∧ c ≤ '9' := by
  simp only [Char.isDigit, Bool.and_eq_true, decide_eq_true_eq]
  rfl

theorem isWordChar_iff {c : Char} :
    isWordChar c = true ↔ IsLetter c ∨ '0' ≤ c ∧ c ≤ '9' ∨ c = '_' := by
  rw [isWordChar, Char.isAlphanum, Bool.or_eq_true, Bool.or_eq_true,
    isAlpha_iff, isDigit_iff, decide_eq_true_eq, or_assoc]

theorem isIdentifier_iff {name : List Char} :
    isIdentifier name = true ↔ IsName name := by
  cases name with
  | nil =>
      simp [isIdentifier, IsName]
  | cons first more =>
      simp only [isIdentifier, Bool.and_eq_true, Bool.or_eq_true,
        decide_eq_true_eq, isAlpha_iff, List.all_eq_true, isWordChar_iff]
      constructor
      · rintro ⟨starts, goesOn⟩
        exact ⟨first, more, rfl, starts, goesOn⟩
      · rintro ⟨_, _, ⟨rfl, rfl⟩, starts, goesOn⟩
        exact ⟨starts, goesOn⟩

end Preflight.Text
