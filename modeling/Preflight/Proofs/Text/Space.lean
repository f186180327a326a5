import Preflight.Text.Space
import Preflight.Text.Word

/-!
# White space and words

No character of a word is white space.
-/

namespace Preflight.Text

/-- No white space lies between the first digit and the last letter. -/
theorem spaceRanges_avoid_words :
    ∀ range ∈ spaceRanges, range.2 < 48 ∨ 122 < range.1 := by
  decide

theorem code_of_isWordChar {c : Char} (isWord : isWordChar c = true) :
    48 ≤ c.toNat ∧ c.toNat ≤ 122 := by
  delta isWordChar Char.isAlphanum Char.isAlpha Char.isUpper Char.isLower
    Char.isDigit at isWord
  simp only [Bool.or_eq_true, Bool.and_eq_true, decide_eq_true_eq,
    UInt32.le_iff_toNat_le] at isWord
  rcases isWord with inRange | rfl
  · have codes :
        (65 ≤ c.toNat ∧ c.toNat ≤ 90 ∨ 97 ≤ c.toNat ∧ c.toNat ≤ 122) ∨
          48 ≤ c.toNat ∧ c.toNat ≤ 57 := inRange
    omega
  · decide

theorem isSpace_of_isWordChar {c : Char} (isWord : isWordChar c = true) :
    isSpace c = false := by
  obtain ⟨atLeast, atMost⟩ := code_of_isWordChar isWord
  rw [isSpace, List.any_eq_false]
  intro range member
  have avoids := spaceRanges_avoid_words range member
  rw [Bool.and_eq_true, decide_eq_true_eq, decide_eq_true_eq]
  omega

theorem isWordChar_of_isSpace {c : Char} (white : isSpace c = true) :
    isWordChar c = false := by
  cases isWord : isWordChar c with
  | false => rfl
  | true =>
      rw [isSpace_of_isWordChar isWord] at white
      cases white

end Preflight.Text
