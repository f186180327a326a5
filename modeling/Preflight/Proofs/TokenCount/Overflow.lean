import Preflight.Proofs.Analyzer

/-!
# Estimates without overflow

On numbers of sixty-four bits sums wrap. The estimate adds at most one to a
quotient, and a quotient that leaves a remainder is less than the number of
characters, so the estimate is exact for all numbers of that width. Room for
one token added before the division would wrap.
-/

namespace Preflight.TokenCount

/-- The estimate on numbers of sixty-four bits, where sums wrap. -/
def wrappingEstimate (chars charsPerToken : UInt64) : UInt64 :=
  chars / charsPerToken + if chars % charsPerToken = 0 then 0 else 1

theorem toNat_ne_zero {n : UInt64} (positive : n ≠ 0) : n.toNat ≠ 0 := by
  intro isZero
  exact positive (UInt64.toNat_inj.1 isZero)

theorem toNat_wrappingEstimate {charsPerToken : UInt64}
    (positive : charsPerToken ≠ 0) (chars : UInt64) :
    (wrappingEstimate chars charsPerToken).toNat =
      tokens chars.toNat charsPerToken.toNat := by
  have fits : tokens chars.toNat charsPerToken.toNat < 2 ^ 64 :=
    Nat.lt_of_le_of_lt
      (tokens_le_chars (toNat_ne_zero positive) chars.toNat) chars.toNat_lt
  unfold tokens at fits ⊢
  by_cases full : chars.toNat % charsPerToken.toNat = 0
  · have fullWord : chars % charsPerToken = 0 := by
      rw [← UInt64.toNat_inj, UInt64.toNat_mod, full]
      rfl
    rw [if_pos full] at fits ⊢
    rw [wrappingEstimate, if_pos fullWord, UInt64.toNat_add,
      UInt64.toNat_div]
    exact Nat.mod_eq_of_lt fits
  · have leftOver : chars % charsPerToken ≠ 0 := by
      rw [ne_eq, ← UInt64.toNat_inj, UInt64.toNat_mod]
      exact full
    rw [if_neg full] at fits ⊢
    rw [wrappingEstimate, if_neg leftOver, UInt64.toNat_add,
      UInt64.toNat_div]
    exact Nat.mod_eq_of_lt fits

/-- For numbers of sixty-four bits the estimate is the least count of tokens
that have room for all characters. It is no greater than the number of
characters, and sums that wrap give the same. More characters need no fewer
tokens, and wider tokens no more of them. Two numbers of characters together
need as many tokens as apart or one less, and so do two texts. -/
theorem estimate_is_exact_ceiling :
    (∀ chars charsPerToken : UInt64, charsPerToken ≠ 0 →
        ∃ count : UInt64,
          estimate chars.toNat charsPerToken.toNat = .ok count.toNat ∧
            wrappingEstimate chars charsPerToken = count ∧
            IsLeast {room : ℕ | chars.toNat ≤ room * charsPerToken.toNat}
              count.toNat ∧
            count ≤ chars) ∧
      (∀ fewer chars charsPerToken least count : ℕ, fewer ≤ chars →
        estimate fewer charsPerToken = .ok least →
          estimate chars charsPerToken = .ok count → least ≤ count) ∧
      (∀ chars charsPerToken wider least count : ℕ, charsPerToken ≤ wider →
        estimate chars wider = .ok least →
          estimate chars charsPerToken = .ok count → least ≤ count) ∧
      (∀ first second charsPerToken ofFirst ofSecond together : ℕ,
        estimate first charsPerToken = .ok ofFirst →
          estimate second charsPerToken = .ok ofSecond →
            estimate (first + second) charsPerToken = .ok together →
              together ≤ ofFirst + ofSecond ∧
                ofFirst + ofSecond ≤ together + 1) ∧
      ∀ (analyzer : Analyzer) (first second : List Char),
        (analyzer.analyze (first ++ second)).estimatedTokenCount ≤
            (analyzer.analyze first).estimatedTokenCount +
              (analyzer.analyze second).estimatedTokenCount ∧
          (analyzer.analyze first).estimatedTokenCount +
              (analyzer.analyze second).estimatedTokenCount ≤
            (analyzer.analyze (first ++ second)).estimatedTokenCount + 1 := by
  refine ⟨?_, ?_, ?_, ?_, ?_⟩
  · intro chars charsPerToken positive
    have natPositive := toNat_ne_zero positive
    have exact64 := toNat_wrappingEstimate positive chars
    refine ⟨wrappingEstimate chars charsPerToken, ?_, rfl, ?_, ?_⟩
    · rw [estimate_eq_ok natPositive, exact64]
    · rw [exact64]
      exact isLeast_tokens natPositive chars.toNat
    · rw [UInt64.le_iff_toNat_le, exact64]
      exact tokens_le_chars natPositive chars.toNat
  · intro fewer chars charsPerToken least count more ofFewer ofChars
    rcases estimate_eq_ok_iff.1 ofFewer with ⟨positive, rfl⟩
    rcases estimate_eq_ok_iff.1 ofChars with ⟨_, rfl⟩
    exact tokens_le_tokens positive more
  · intro chars charsPerToken wider least count room ofWider ofNarrow
    rcases estimate_eq_ok_iff.1 ofWider with ⟨_, rfl⟩
    rcases estimate_eq_ok_iff.1 ofNarrow with ⟨positive, rfl⟩
    exact tokens_le_of_wider positive room chars
  · intro first second charsPerToken ofFirst ofSecond together
      firstEstimate secondEstimate estimateTogether
    rcases estimate_eq_ok_iff.1 firstEstimate with ⟨positive, rfl⟩
    rcases estimate_eq_ok_iff.1 secondEstimate with ⟨_, rfl⟩
    rcases estimate_eq_ok_iff.1 estimateTogether with ⟨_, rfl⟩
    exact ⟨tokens_add_le positive first second,
      tokens_add_tokens_le positive first second⟩
  · intro analyzer first second
    have positive := analyzer.charsPerToken_ne_zero
    simp only [analyzer.analyze_eq, List.length_append]
    exact ⟨tokens_add_le positive first.length second.length,
      tokens_add_tokens_le positive first.length second.length⟩

/-- The greatest number of characters, and numbers of characters that need one
token less together. -/
theorem estimate_is_exact_ceiling_greatest :
    (2 : UInt64) ≠ 0 ∧
      IsLeast {room : ℕ | 18446744073709551615 ≤ room * 2}
        9223372036854775808 ∧
      5 ≤ 10 ∧ 4 ≤ 10 ∧
      estimate 5 4 = .ok 2 ∧ estimate 10 4 = .ok 3 ∧ estimate 10 10 = .ok 1 ∧
      2 ≤ 3 ∧ 1 ≤ 3 ∧ 3 ≤ 2 + 2 ∧ 2 + 2 ≤ 3 + 1 := by
  have nonzero : (2 : UInt64) ≠ 0 := by decide
  have value :
      (wrappingEstimate 18446744073709551615 2).toNat =
        9223372036854775808 := by
    decide
  rcases estimate_is_exact_ceiling with
    ⟨exactly, grows, shrinks, together, _⟩
  rcases exactly 18446744073709551615 2 nonzero with
    ⟨count, _, wrapped, least, _⟩
  rw [← wrapped, value] at least
  have more := grows 5 10 4 2 3 (by decide) rfl rfl
  have fewer := shrinks 10 4 10 1 3 (by decide) rfl rfl
  have halves := together 5 5 4 2 2 3 rfl rfl rfl
  exact ⟨nonzero, least, by decide, by decide, rfl, rfl, rfl, more, fewer,
    halves⟩

/-- Room for one token added before the division wraps to nothing. -/
example :
    ((18446744073709551615 + 2 - 1) / 2 : UInt64) = 0 ∧
      wrappingEstimate 18446744073709551615 2 = 9223372036854775808 := by
  decide

end Preflight.TokenCount
