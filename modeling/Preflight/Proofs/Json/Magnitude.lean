import Mathlib.Tactic.FieldSimp
import Preflight.Json.Magnitude
import Preflight.Proofs.Binary64.Scaling
import Preflight.Proofs.Json.Number

/-!
# The value of a number in JSON

The parts of a number's spelling denote a rational number. What is read off it
in floating point lies within one part in `2 ^ 50` and two units of it, and is
the nearest number if the digits and the exponent are few. Only close to the
limit of the range it depends on the rounding whether a number is read.
-/

namespace Preflight.Json

open Binary64 (Near RoundsTo overflowBound signed stepFactor unitsOfNat
  unitsPerOne)
open Text (decimalValue)

/-- The value that a number denotes, without its sign. -/
def Number.magnitude (numeral : Number) : ℚ :=
  (numeral.whole +
      decimalValue numeral.fraction / 10 ^ numeral.fraction.length) *
    10 ^ numeral.exponent.getD 0

/-- The value that a number denotes. -/
def Number.toRat (numeral : Number) : ℚ :=
  signed numeral.negative numeral.magnitude

theorem Number.magnitude_nonneg (numeral : Number) :
    0 ≤ numeral.magnitude := by
  have fraction :
      (0 : ℚ) ≤ decimalValue numeral.fraction / 10 ^ numeral.fraction.length :=
    div_nonneg (Nat.cast_nonneg _) (by positivity)
  exact
    mul_nonneg (add_nonneg (Nat.cast_nonneg _) fraction)
      (zpow_nonneg (by norm_num) _)

theorem Number.abs_toRat (numeral : Number) :
    |numeral.toRat| = numeral.magnitude := by
  rw [toRat, Binary64.abs_signed, abs_of_nonneg numeral.magnitude_nonneg]

/-- The digits of a number as a whole. -/
def Number.coefficient (numeral : Number) : Nat :=
  Nat.ofDigitChars 10 numeral.fraction numeral.whole

/-- The exponent of the last digit. -/
def Number.lastExponent (numeral : Number) : Int :=
  numeral.exponent.getD 0 - numeral.fraction.length

/-! ## Digits of a word -/

theorem cast_ofDigitChars (digits : List Char) (word : Nat) :
    ((Nat.ofDigitChars 10 digits word : Nat) : ℚ) =
      word * 10 ^ digits.length + decimalValue digits := by
  rw [Nat.ofDigitChars_eq_ofDigitChars_zero, ← decimalValue, Nat.cast_add,
    Nat.cast_mul, Nat.cast_pow, Nat.cast_ofNat, mul_comm]

theorem ofDigitChars_cons_eq (digit : Char) (more : List Char) (word : Nat) :
    Nat.ofDigitChars 10 (digit :: more) word =
      Nat.ofDigitChars 10 more (Nat.ofDigitChars 10 [digit] word) := by
  rw [← Nat.ofDigitChars_append, List.singleton_append]

theorem le_ofDigitChars (digits : List Char) (word : Nat) :
    word ≤ Nat.ofDigitChars 10 digits word := by
  rw [Nat.ofDigitChars_eq_ofDigitChars_zero]
  exact
    Nat.le_trans (Nat.le_mul_of_pos_left word (Nat.pow_pos (by decide)))
      (Nat.le_add_right _ _)

/-- Digits denote a number below the next power of ten. -/
theorem decimalValue_lt {digits : List Char}
    (areDigits : ∀ c ∈ digits, c.isDigit = true) :
    decimalValue digits < 10 ^ digits.length := by
  induction digits with
  | nil => decide
  | cons digit more inductionHypothesis =>
      obtain ⟨isDigit, moreDigits⟩ := List.forall_mem_cons.1 areDigits
      have small := (digitChar_of_isDigit isDigit).1
      have later := inductionHypothesis moreDigits
      rw [decimalValue, Nat.ofDigitChars_cons,
        Nat.ofDigitChars_eq_ofDigitChars_zero, ← decimalValue,
        List.length_cons, Nat.pow_succ, Nat.mul_zero, Nat.zero_add]
      generalize digit.toNat - '0'.toNat = value at small
      have scaled := Nat.mul_le_mul_left (10 ^ more.length)
        (Nat.le_of_lt_succ small)
      omega

/-- Digits are taken from the front, and only behind a long word some are
left. -/
theorem takeDigits_cases {word : Nat} {digits : List Char}
    (areDigits : ∀ c ∈ digits, c.isDigit = true) :
    ∃ taken rest,
      digits = taken ++ rest ∧
        takeDigits word digits = (Nat.ofDigitChars 10 taken word, rest) ∧
        (rest = [] ∨ 2 ^ 53 ≤ Nat.ofDigitChars 10 taken word) := by
  induction digits generalizing word with
  | nil => exact ⟨[], [], rfl, rfl, Or.inl rfl⟩
  | cons digit more inductionHypothesis =>
      obtain ⟨isDigit, moreDigits⟩ := List.forall_mem_cons.1 areDigits
      by_cases fits : Nat.ofDigitChars 10 [digit] word ≤ maxCount
      · obtain ⟨taken, rest, cut, read, left⟩ :=
          @inductionHypothesis (Nat.ofDigitChars 10 [digit] word) moreDigits
        refine ⟨digit :: taken, rest, ?_, ?_, ?_⟩
        · rw [cut, List.cons_append]
        · rw [takeDigits, if_pos fits, read, ofDigitChars_cons_eq digit taken]
        · rwa [ofDigitChars_cons_eq digit taken]
      · refine ⟨[], digit :: more, rfl, ?_, Or.inr ?_⟩
        · rw [takeDigits, if_neg fits, Nat.ofDigitChars_nil]
        · have small := (digitChar_of_isDigit isDigit).1
          rw [Nat.ofDigitChars_cons, Nat.ofDigitChars_nil] at fits
          rw [Nat.ofDigitChars_nil]
          unfold maxCount at fits
          omega

theorem takeDigits_le {word : Nat} (small : word ≤ maxCount)
    (digits : List Char) : (takeDigits word digits).1 ≤ maxCount := by
  induction digits generalizing word with
  | nil => exact small
  | cons digit more inductionHypothesis =>
      rw [takeDigits]
      split
      · rename_i fits
        exact inductionHypothesis fits
      · exact small

/-- Digits that all fit are all taken. -/
theorem takeDigits_of_le {word : Nat} {digits : List Char}
    (fits : Nat.ofDigitChars 10 digits word ≤ maxCount) :
    takeDigits word digits = (Nat.ofDigitChars 10 digits word, []) := by
  induction digits generalizing word with
  | nil => rfl
  | cons digit more inductionHypothesis =>
      rw [ofDigitChars_cons_eq] at fits ⊢
      have first := Nat.le_trans (le_ofDigitChars more _) fits
      rw [takeDigits, if_pos first, inductionHypothesis fits]

/-! ## The leading digits -/

theorem Number.leading_le (numeral : Number) :
    numeral.leading.1 ≤ 2 ^ 64 := by
  have whole :=
    takeDigits_le (Nat.zero_le maxCount) (Nat.toDigits 10 numeral.whole)
  have word := takeDigits_le whole numeral.fraction
  exact Nat.le_trans word (by decide)

/-- The digits behind the point denote a part of one. -/
theorem fraction_bounds {digits : List Char}
    (areDigits : ∀ c ∈ digits, c.isDigit = true) :
    (0 : ℚ) ≤ decimalValue digits / 10 ^ digits.length ∧
      (decimalValue digits : ℚ) / 10 ^ digits.length ≤ 1 := by
  have below :
      ((decimalValue digits : Nat) : ℚ) ≤ (10 ^ digits.length : Nat) :=
    Nat.cast_le.2 (decimalValue_lt areDigits).le
  rw [Nat.cast_pow, Nat.cast_ofNat] at below
  constructor
  · positivity
  · rwa [div_le_one (by positivity)]

theorem fraction_append (behind omitted : List Char) :
    (decimalValue (behind ++ omitted) : ℚ) /
        10 ^ (behind ++ omitted).length =
      (decimalValue behind +
          decimalValue omitted / 10 ^ omitted.length) /
        10 ^ behind.length := by
  have value :
      (decimalValue (behind ++ omitted) : ℚ) =
        decimalValue behind * 10 ^ omitted.length + decimalValue omitted := by
    rw [decimalValue, Nat.ofDigitChars_append, cast_ofDigitChars,
      ← decimalValue]
  rw [value, List.length_append, pow_add]
  field_simp

section Leading

variable {word : Nat} {skipped behind omitted : List Char} {scale : ℚ}

/-- Left out in front of the point: the number and what is taken of it lie
between two multiples of the same place. -/
theorem near_of_skipped (far : 2 ^ 53 ≤ word) (positive : 0 ≤ scale)
    (skippedDigits : ∀ c ∈ skipped, c.isDigit = true)
    (behindDigits : ∀ c ∈ behind, c.isDigit = true)
    (fractionDigits : ∀ c ∈ behind ++ omitted, c.isDigit = true) :
    Near 1 0
      ((word * 10 ^ skipped.length + decimalValue skipped +
          decimalValue (behind ++ omitted) /
            10 ^ (behind ++ omitted).length) * scale)
      ((word + decimalValue behind / 10 ^ behind.length) *
        (10 ^ skipped.length * scale)) := by
  have placePositive : 0 ≤ 10 ^ skipped.length * scale :=
    mul_nonneg (by positivity) positive
  obtain ⟨lower, upper⟩ := fraction_bounds fractionDigits
  obtain ⟨lowerBehind, upperBehind⟩ := fraction_bounds behindDigits
  have small :
      ((decimalValue skipped + 1 : Nat) : ℚ) ≤
        (10 ^ skipped.length : Nat) :=
    Nat.cast_le.2 (decimalValue_lt skippedDigits)
  rw [Nat.cast_add, Nat.cast_one, Nat.cast_pow, Nat.cast_ofNat] at small
  have nonnegative : (0 : ℚ) ≤ decimalValue skipped := Nat.cast_nonneg _
  apply Near.of_between far placePositive
  · rw [← mul_assoc]
    apply mul_le_mul_of_nonneg_right _ positive
    linarith
  · rw [← mul_assoc]
    apply mul_le_mul_of_nonneg_right _ positive
    rw [add_mul, one_mul]
    linarith
  · exact mul_le_mul_of_nonneg_right (by linarith) placePositive
  · exact mul_le_mul_of_nonneg_right (by linarith) placePositive

/-- Left out behind the point. -/
theorem near_of_omitted
    (far : omitted = [] ∨ 2 ^ 53 ≤ word) (positive : 0 ≤ scale)
    (omittedDigits : ∀ c ∈ omitted, c.isDigit = true) :
    Near 1 0 ((word + decimalValue omitted / 10 ^ omitted.length) * scale)
      (word * scale) := by
  obtain ⟨lower, upper⟩ := fraction_bounds omittedDigits
  have wordNonnegative : (0 : ℚ) ≤ word := Nat.cast_nonneg word
  rcases far with rfl | far
  · have nothing : decimalValue [] = 0 := rfl
    have nonnegative : 0 ≤ word * scale := mul_nonneg wordNonnegative positive
    rw [nothing, Nat.cast_zero, zero_div, add_zero]
    exact
      (Near.of_eq (word * scale)).weaken nonnegative nonnegative (le_refl 0)
        (Nat.zero_le 1) (le_refl 0)
  · apply Near.of_between far positive
    · exact mul_le_mul_of_nonneg_right (by linarith) positive
    · exact mul_le_mul_of_nonneg_right (by linarith) positive
    · exact le_refl _
    · exact mul_le_mul_of_nonneg_right (by linarith) positive

end Leading

/-- Left out are digits behind a long word only, so that the leading digits are
near the number. -/
theorem Number.near_leading {numeral : Number}
    (isSpelling : numeral.IsSpelling) :
    Near 1 0 numeral.magnitude
      (numeral.leading.1 * 10 ^ numeral.leading.2) := by
  have ten : (10 : ℚ) ≠ 0 := by norm_num
  have scalePositive : (0 : ℚ) ≤ 10 ^ numeral.exponent.getD 0 :=
    zpow_nonneg (by norm_num) _
  obtain ⟨inFront, skipped, wholeDigits, wholeRead, wholeLeft⟩ :=
    @takeDigits_cases 0 _ (@isDigit_of_mem_toDigits numeral.whole)
  obtain ⟨behind, omitted, fractionDigits, fractionRead, fractionLeft⟩ :=
    @takeDigits_cases (Nat.ofDigitChars 10 inFront 0) _ isSpelling
  have leading :
      numeral.leading =
        (Nat.ofDigitChars 10 behind (Nat.ofDigitChars 10 inFront 0),
          numeral.exponent.getD 0 + skipped.length - behind.length) := by
    have lengths := congrArg List.length fractionDigits
    rw [List.length_append] at lengths
    simp only [leading, wholeRead, fractionRead, lengths, Prod.mk.injEq,
      true_and]
    omega
  have wholeValue :
      (numeral.whole : ℚ) =
        Nat.ofDigitChars 10 inFront 0 * 10 ^ skipped.length +
          decimalValue skipped := by
    rw [← cast_ofDigitChars, ← Nat.ofDigitChars_append, ← wholeDigits,
      ← decimalValue, decimalValue_toDigits]
  have skippedDigits : ∀ c ∈ skipped, c.isDigit = true := by
    intro c member
    apply isDigit_of_mem_toDigits (n := numeral.whole)
    rw [wholeDigits]
    exact List.mem_append_right _ member
  have allDigits : ∀ c ∈ behind ++ omitted, c.isDigit = true := by
    rw [← fractionDigits]
    exact isSpelling
  obtain ⟨behindDigits, omittedDigits⟩ := List.forall_mem_append.1 allDigits
  have leadingValue :
      ((Nat.ofDigitChars 10 behind (Nat.ofDigitChars 10 inFront 0) : Nat) : ℚ) *
          10 ^ (numeral.exponent.getD 0 + skipped.length - behind.length) =
        (Nat.ofDigitChars 10 inFront 0 +
            decimalValue behind / 10 ^ behind.length) *
          (10 ^ skipped.length * 10 ^ numeral.exponent.getD 0) := by
    rw [cast_ofDigitChars, zpow_sub₀ ten, zpow_add₀ ten, zpow_natCast,
      zpow_natCast]
    field_simp
  rw [magnitude, leading, leadingValue, wholeValue, fractionDigits]
  rcases wholeLeft with rfl | far
  · have nothing : decimalValue [] = 0 := rfl
    have near :=
      near_of_omitted fractionLeft
        (div_nonneg scalePositive (by positivity : (0 : ℚ) ≤ 10 ^ behind.length))
        omittedDigits
    rw [cast_ofDigitChars] at near
    rw [fraction_append, nothing, List.length_nil, pow_zero, mul_one,
      Nat.cast_zero, add_zero, one_mul]
    generalize (10 : ℚ) ^ numeral.exponent.getD 0 = scale at near ⊢
    convert near using 1
    · field_simp
      ring
    · field_simp
  · exact
      near_of_skipped far scalePositive skippedDigits behindDigits allDigits

/-! ## What is read -/

/-- Six steps of rounding and one unit are less than one part in `2 ^ 50` and
two units. -/
theorem abs_sub_le_of_near {first second : ℚ} (near : Near 6 1 first second)
    (nonnegative : 0 ≤ first) (secondNonnegative : 0 ≤ second) :
    |second - first| ≤ first / 2 ^ 50 + 2 := by
  have factor : stepFactor ^ 6 ≤ 1 + 1 / 2 ^ 50 := by
    unfold stepFactor
    norm_num
  have distance :=
    near.abs_sub_le factor nonnegative secondNonnegative zero_le_one
  rw [mul_one_div] at distance
  have slack : (1 + 1 / 2 ^ 50 : ℚ) * 1 ≤ 2 := by norm_num
  exact distance.trans (add_le_add_right slack _)

theorem Number.exists_of_toBinary64?_eq_some {numeral : Number}
    {x : Binary64} (read : numeral.toBinary64? = some x) :
    ∃ units,
      Binary64.scaleUnits? (unitsOfNat numeral.leading.1) numeral.leading.2 =
          some units ∧
        x = .ofUnits numeral.negative units := by
  obtain ⟨units, scaled, same⟩ := Option.map_eq_some_iff.1 read
  exact ⟨units, scaled, same.symm⟩

/-- What is read off a number is finite, has its sign, and lies within one part
in `2 ^ 50` and two units of it. -/
theorem Number.toBinary64?_eq_some {numeral : Number}
    (isSpelling : numeral.IsSpelling) {x : Binary64}
    (read : numeral.toBinary64? = some x) :
    x.isFinite = true ∧ x.isNegative = numeral.negative ∧
      |x.toRat - numeral.toRat| ≤
        |numeral.toRat| / 2 ^ 50 + 2 / unitsPerOne := by
  obtain ⟨units, scaled, rfl⟩ := exists_of_toBinary64?_eq_some read
  obtain ⟨small, onGrid, nearScaled⟩ :=
    Binary64.scaleUnits?_eq_some numeral.leading_le scaled
  have positive := Binary64.cast_unitsPerOne_pos
  have nearLeading := (near_leading isSpelling).mul_right positive.le
  rw [zero_mul] at nearLeading
  have near := nearLeading.trans nearScaled (le_refl 0) zero_le_one
  rw [zero_add] at near
  have distance :=
    abs_sub_le_of_near near
      (mul_nonneg numeral.magnitude_nonneg positive.le) (Nat.cast_nonneg units)
  refine
    ⟨Binary64.isFinite_ofUnits small numeral.negative,
      Binary64.isNegative_ofUnits small numeral.negative, ?_⟩
  rw [Binary64.toRat_ofUnits small numeral.negative onGrid,
    numeral.abs_toRat, toRat, Binary64.abs_signed_sub,
    Binary64.abs_div_unitsPerOne_sub, div_le_iff₀ positive, add_mul,
    div_mul_cancel₀ _ positive.ne', div_mul_eq_mul_div]
  exact distance

theorem Number.toBinary64?_eq_none_iff {numeral : Number} :
    numeral.toBinary64? = none ↔
      Binary64.scaleUnits? (unitsOfNat numeral.leading.1) numeral.leading.2 =
        none := by
  rw [toBinary64?, Option.map_eq_none_iff]

theorem overflowBound_eq : overflowBound = (1 - 1 / 2 ^ 54) * 2 ^ 1024 := by
  have power : (2 : ℚ) ^ 1024 = 2 ^ 54 * 2 ^ 970 := by rw [← pow_add]
  rw [overflowBound, power]
  generalize (2 : ℚ) ^ 970 = last
  ring

/-- Every number but those next to the limit of the range is read. -/
theorem Number.exists_toBinary64?_eq_some {numeral : Number}
    (isSpelling : numeral.IsSpelling)
    (inRange : |numeral.toRat| ≤ (1 - 1 / 2 ^ 50) * 2 ^ 1024) :
    ∃ x, numeral.toBinary64? = some x := by
  rw [← Option.ne_none_iff_exists']
  intro refused
  have bound :=
    Binary64.overflowBound_le_of_scaleUnits?_eq_none
      (toBinary64?_eq_none_iff.1 refused)
  have near := (near_leading isSpelling).second_le
  have factors :
      stepFactor ^ 2 * stepFactor ^ 1 * (1 - 1 / 2 ^ 50) < 1 - 1 / 2 ^ 54 := by
    unfold stepFactor
    norm_num
  have positive : (0 : ℚ) < 2 ^ 1024 := pow_pos two_pos 1024
  rw [numeral.abs_toRat] at inRange
  rw [overflowBound_eq] at bound
  rw [add_zero] at near
  generalize (2 : ℚ) ^ 1024 = limit at bound inRange positive
  have reached : (1 - 1 / 2 ^ 54) * limit < (1 - 1 / 2 ^ 54) * limit :=
    calc (1 - 1 / 2 ^ 54) * limit
        ≤ stepFactor ^ 2 *
            (numeral.leading.1 * 10 ^ numeral.leading.2) := bound
      _ ≤ stepFactor ^ 2 * (stepFactor ^ 1 * numeral.magnitude) :=
          mul_le_mul_of_nonneg_left near (Binary64.stepFactor_pow_pos 2).le
      _ = stepFactor ^ 2 * stepFactor ^ 1 * numeral.magnitude :=
          (mul_assoc _ _ _).symm
      _ ≤ stepFactor ^ 2 * stepFactor ^ 1 * ((1 - 1 / 2 ^ 50) * limit) := by
          apply mul_le_mul_of_nonneg_left inRange
          exact
            (mul_pos (Binary64.stepFactor_pow_pos 2)
              (Binary64.stepFactor_pow_pos 1)).le
      _ = stepFactor ^ 2 * stepFactor ^ 1 * (1 - 1 / 2 ^ 50) * limit :=
          (mul_assoc _ _ _).symm
      _ < (1 - 1 / 2 ^ 54) * limit :=
          mul_lt_mul_of_pos_right factors positive
  exact lt_irrefl _ reached

/-- No number beyond the range is read, not even next to its limit. -/
theorem Number.toBinary64?_eq_none {numeral : Number}
    (isSpelling : numeral.IsSpelling)
    (outside : (1 + 1 / 2 ^ 50) * 2 ^ 1024 ≤ |numeral.toRat|) :
    numeral.toBinary64? = none := by
  have near := (near_leading isSpelling).first_le
  have factors : stepFactor ^ 1 * stepFactor ^ 2 ≤ 1 + 1 / 2 ^ 50 := by
    unfold stepFactor
    norm_num
  have bound := Binary64.overflowBound_le_two_pow
  rw [numeral.abs_toRat] at outside
  rw [add_zero] at near
  rw [toBinary64?_eq_none_iff]
  apply Binary64.scaleUnits?_eq_none_of_le numeral.leading_le
  apply le_of_mul_le_mul_left _ (Binary64.stepFactor_pow_pos 1)
  calc stepFactor ^ 1 * (stepFactor ^ 2 * overflowBound)
      = stepFactor ^ 1 * stepFactor ^ 2 * overflowBound :=
        (mul_assoc _ _ _).symm
    _ ≤ (1 + 1 / 2 ^ 50) * 2 ^ 1024 :=
        mul_le_mul factors bound Binary64.overflowBound_pos.le (by norm_num)
    _ ≤ numeral.magnitude := outside
    _ ≤ stepFactor ^ 1 * (numeral.leading.1 * 10 ^ numeral.leading.2) := near

/-! ## Digits that fit -/

theorem Number.magnitude_eq (numeral : Number) :
    numeral.magnitude = numeral.coefficient * 10 ^ numeral.lastExponent := by
  have nonzero : (10 : ℚ) ≠ 0 := by norm_num
  rw [magnitude, coefficient, cast_ofDigitChars, lastExponent,
    zpow_sub₀ nonzero, zpow_natCast]
  field_simp

/-- Digits that fit into a word are all taken. -/
theorem Number.leading_of_le {numeral : Number}
    (fits : numeral.coefficient ≤ maxCount) :
    numeral.leading = (numeral.coefficient, numeral.lastExponent) := by
  have wholeFits :
      Nat.ofDigitChars 10 (Nat.toDigits 10 numeral.whole) 0 ≤ maxCount := by
    rw [← decimalValue, decimalValue_toDigits]
    exact Nat.le_trans (le_ofDigitChars numeral.fraction _) fits
  have wholeRead := takeDigits_of_le wholeFits
  rw [← decimalValue, decimalValue_toDigits] at wholeRead
  have read := takeDigits_of_le fits
  simp only [leading, wholeRead, read, List.length_nil, Nat.cast_zero,
    Int.add_zero]
  rfl

/-- A number of few digits with a small exponent is read as the nearest one. -/
theorem Number.exists_isNearestTo {numeral : Number}
    (short : numeral.coefficient ≤ 2 ^ 53)
    (few : numeral.lastExponent.natAbs ≤ 22) :
    ∃ x, numeral.toBinary64? = some x ∧ x.IsNearestTo numeral.toRat := by
  obtain ⟨units, scaled, rounded⟩ :=
    Binary64.exists_roundsTo_scaleUnits? short few
  obtain ⟨small, _, _⟩ :=
    Binary64.scaleUnits?_eq_some (Nat.le_trans short (by decide)) scaled
  have leading := leading_of_le (Nat.le_trans short (by decide))
  rw [← numeral.magnitude_eq] at rounded
  refine ⟨.ofUnits numeral.negative units, ?_, ?_⟩
  · simp only [toBinary64?, leading, scaled, Option.map_some]
  · exact
      rounded.isNearestTo_ofUnits small numeral.negative
        numeral.magnitude_nonneg

/-- What is known of reading a number in floating point: it is read unless it
lies beyond the range or next to its limit, what is read has its sign and lies
near it, and with few digits and a small exponent it is the nearest. -/
structure Number.IsReadNearly (numeral : Number) : Prop where
  read_of_inRange :
    |numeral.toRat| ≤ (1 - 1 / 2 ^ 50) * 2 ^ 1024 →
      ∃ x, numeral.toBinary64? = some x
  refused_of_outside :
    (1 + 1 / 2 ^ 50) * 2 ^ 1024 ≤ |numeral.toRat| →
      numeral.toBinary64? = none
  near :
    ∀ x, numeral.toBinary64? = some x →
      x.isFinite = true ∧ x.isNegative = numeral.negative ∧
        |x.toRat - numeral.toRat| ≤
          |numeral.toRat| / 2 ^ 50 + 2 / unitsPerOne
  nearest_of_short :
    numeral.coefficient ≤ 2 ^ 53 → numeral.lastExponent.natAbs ≤ 22 →
      ∃ x, numeral.toBinary64? = some x ∧ x.IsNearestTo numeral.toRat

theorem NumberSpelling.isReadNearly {text : List Char} {numeral : Number}
    (spelling : NumberSpelling text numeral) : numeral.IsReadNearly := by
  have isSpelling : numeral.IsSpelling := by
    obtain ⟨_, _, areDigits, _⟩ := spelling
    exact areDigits
  exact
    { read_of_inRange := Number.exists_toBinary64?_eq_some isSpelling
      refused_of_outside := Number.toBinary64?_eq_none isSpelling
      near := fun x read => Number.toBinary64?_eq_some isSpelling read
      nearest_of_short := Number.exists_isNearestTo }

/-- Every whole number that fits into a word is read. -/
theorem Number.isSome_toBinary64?_of_integer (negative : Bool) {n : Nat}
    (small : n ≤ maxCount) :
    (Number.toBinary64? { negative, whole := n }).isSome = true := by
  rw [Option.isSome_iff_ne_none]
  intro refused
  have leading := @leading_of_le { negative, whole := n } small
  have bound :=
    Binary64.overflowBound_le_of_scaleUnits?_eq_none
      (toBinary64?_eq_none_iff.1 refused)
  have noPlaces : (10 : ℚ) ^ lastExponent { negative, whole := n } = 1 :=
    zpow_zero 10
  have smallCast : (n : ℚ) ≤ (2 ^ 64 : Nat) :=
    Nat.cast_le.2 (Nat.le_trans small (by decide))
  have factor : stepFactor ^ 2 ≤ 2 := by
    unfold stepFactor
    norm_num
  have far : (2 : ℚ) ^ 65 < overflowBound :=
    Binary64.two_pow_lt_overflowBound (by decide)
  have doubled : (2 : ℚ) ^ 65 = 2 * 2 ^ 64 := pow_succ' 2 64
  rw [leading, noPlaces, mul_one] at bound
  rw [Nat.cast_pow, Nat.cast_ofNat] at smallCast
  have scaled : stepFactor ^ 2 * (n : ℚ) ≤ 2 * 2 ^ 64 :=
    mul_le_mul factor smallCast (Nat.cast_nonneg n) zero_le_two
  rw [doubled] at far
  exact absurd (bound.trans scaled) (not_le.2 far)

end Preflight.Json
