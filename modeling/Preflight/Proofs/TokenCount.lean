import Mathlib.Algebra.Order.Floor.Semiring
import Mathlib.Data.Rat.Floor
import Mathlib.Order.Bounds.Basic
import Preflight.TokenCount

/-!
# The token estimate is a ceiling

The estimate is the least number of tokens that have room for all characters.
It grows with the characters and not with the room in a token, and two texts
need at most one token more apart than together.
-/

namespace Preflight.TokenCount

/-- The number of tokens that an estimate answers. -/
def tokens (chars charsPerToken : Nat) : Nat :=
  chars / charsPerToken + if chars % charsPerToken = 0 then 0 else 1

theorem estimate_eq_ok {charsPerToken : Nat} (positive : charsPerToken ≠ 0)
    (chars : Nat) :
    estimate chars charsPerToken = .ok (tokens chars charsPerToken) := by
  rw [estimate, if_neg positive, tokens]

theorem estimate_eq_ok_iff {chars charsPerToken count : Nat} :
    estimate chars charsPerToken = .ok count ↔
      charsPerToken ≠ 0 ∧ count = tokens chars charsPerToken := by
  by_cases noRoom : charsPerToken = 0
  · rw [estimate, if_pos noRoom]
    simp [noRoom]
  · rw [estimate_eq_ok noRoom, Except.ok.injEq]
    simp [noRoom, eq_comm]

theorem tokens_le_iff {charsPerToken : Nat} (positive : charsPerToken ≠ 0)
    (chars count : Nat) :
    tokens chars charsPerToken ≤ count ↔ chars ≤ count * charsPerToken := by
  have room : 0 < charsPerToken := Nat.pos_of_ne_zero positive
  unfold tokens
  by_cases full : chars % charsPerToken = 0
  · obtain ⟨whole, rfl⟩ := Nat.dvd_of_mod_eq_zero full
    rw [if_pos full, Nat.add_zero, Nat.mul_div_cancel_left whole room,
      Nat.mul_comm count, Nat.mul_le_mul_left_iff room]
  · have different : chars ≠ count * charsPerToken := by
      intro same
      rw [same] at full
      exact full (Nat.mul_mod_left count charsPerToken)
    rw [if_neg full, Nat.add_one_le_iff, Nat.div_lt_iff_lt_mul room]
    omega

/-- The estimate is the quotient rounded up. -/
theorem tokens_eq_ceil {charsPerToken : Nat} (positive : charsPerToken ≠ 0)
    (chars : Nat) :
    tokens chars charsPerToken = ⌈(chars : ℚ) / charsPerToken⌉₊ := by
  have room : (0 : ℚ) < charsPerToken := by
    exact_mod_cast Nat.pos_of_ne_zero positive
  apply eq_of_forall_ge_iff
  intro count
  rw [tokens_le_iff positive, Nat.ceil_le, div_le_iff₀ room]
  norm_cast

/-! ## Order -/

section Order

variable {charsPerToken : Nat} (positive : charsPerToken ≠ 0)

include positive

theorem isLeast_tokens (chars : Nat) :
    IsLeast {count | chars ≤ count * charsPerToken}
      (tokens chars charsPerToken) :=
  ⟨(tokens_le_iff positive chars _).1 (Nat.le_refl _),
    fun count room => (tokens_le_iff positive chars count).2 room⟩

theorem tokens_le_chars (chars : Nat) : tokens chars charsPerToken ≤ chars := by
  rw [tokens_le_iff positive]
  exact Nat.le_mul_of_pos_right chars (Nat.pos_of_ne_zero positive)

theorem tokens_le_tokens {fewer chars : Nat} (more : fewer ≤ chars) :
    tokens fewer charsPerToken ≤ tokens chars charsPerToken := by
  rw [tokens_le_iff positive]
  exact Nat.le_trans more (isLeast_tokens positive chars).1

theorem tokens_le_of_wider {wider : Nat} (room : charsPerToken ≤ wider)
    (chars : Nat) : tokens chars wider ≤ tokens chars charsPerToken := by
  have widerPositive : wider ≠ 0 := by omega
  rw [tokens_le_iff widerPositive]
  calc chars
      ≤ tokens chars charsPerToken * charsPerToken :=
        (isLeast_tokens positive chars).1
    _ ≤ tokens chars charsPerToken * wider := Nat.mul_le_mul_left _ room

/-- The last token of an estimate is not empty. -/
theorem tokens_mul_lt (chars : Nat) :
    tokens chars charsPerToken * charsPerToken < chars + charsPerToken := by
  cases count : tokens chars charsPerToken with
  | zero =>
      rw [Nat.zero_mul]
      omega
  | succ full =>
      have notEnough : ¬ tokens chars charsPerToken ≤ full := by omega
      rw [tokens_le_iff positive] at notEnough
      rw [Nat.add_one_mul]
      omega

theorem tokens_add_le (first second : Nat) :
    tokens (first + second) charsPerToken ≤
      tokens first charsPerToken + tokens second charsPerToken := by
  rw [tokens_le_iff positive, Nat.add_mul]
  exact Nat.add_le_add (isLeast_tokens positive first).1
    (isLeast_tokens positive second).1

theorem tokens_add_tokens_le (first second : Nat) :
    tokens first charsPerToken + tokens second charsPerToken ≤
      tokens (first + second) charsPerToken + 1 := by
  have inFirst := tokens_mul_lt positive first
  have inSecond := tokens_mul_lt positive second
  have together :
      first + second ≤ tokens (first + second) charsPerToken * charsPerToken :=
    (isLeast_tokens positive (first + second)).1
  have lessThanTwoMore :
      (tokens first charsPerToken + tokens second charsPerToken) *
          charsPerToken <
        (tokens (first + second) charsPerToken + 2) * charsPerToken := by
    rw [Nat.add_mul, Nat.add_mul]
    omega
  exact Nat.le_of_lt_succ (Nat.lt_of_mul_lt_mul_right lessThanTwoMore)

end Order

end Preflight.TokenCount
