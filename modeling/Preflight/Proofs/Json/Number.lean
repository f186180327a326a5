import Mathlib.Data.List.Induction
import Mathlib.Data.List.TakeDrop
import Preflight.Json.Writer
import Preflight.Proofs.Json.Grammar
import Preflight.Proofs.Text.Name

/-!
# Numbers in JSON texts

The spelling of a number is read in all its parts, provided that what follows
cannot continue it. Digits keep their count behind the point, where zeros
matter, and denote a number in front of it. A written number is one of its
spellings.
-/

namespace Preflight.Json

open Text

/-- What stands behind a number does not go on with a digit, a point or an
exponent. -/
def EndsNumber (rest : List Char) : Prop :=
  ∀ c ∈ rest.head?, c.isDigit = false ∧ c ≠ '.' ∧ c ≠ 'e' ∧ c ≠ 'E'

theorem endsNumber_nil : EndsNumber [] := by
  simp [EndsNumber]

theorem endsNumber_cons {c : Char} {rest : List Char} :
    EndsNumber (c :: rest) ↔
      c.isDigit = false ∧ c ≠ '.' ∧ c ≠ 'e' ∧ c ≠ 'E' := by
  simp [EndsNumber]

theorem EndsNumber.stops {rest : List Char} (ends : EndsNumber rest) :
    ∀ c ∈ rest.head?, c.isDigit = false :=
  fun c member => (ends c member).1

/-- The numbers whose parts can be written: only digits stand behind the
point. -/
def Number.IsSpelling (numeral : Number) : Prop :=
  ∀ c ∈ numeral.fraction, c.isDigit = true

/-! ## Digits -/

theorem readDigits_append {digits rest : List Char} (isDigits : IsDigits digits)
    (stops : ∀ c ∈ rest.head?, c.isDigit = false) :
    readDigits (digits ++ rest) = some (digits, rest) := by
  obtain ⟨nonempty, areDigits⟩ := isDigits
  have cut : (digits ++ rest).span Char.isDigit = (digits, rest) := by
    rw [List.span_eq_takeWhile_dropWhile,
      List.takeWhile_append_of_pos areDigits,
      List.dropWhile_append_of_pos areDigits]
    cases rest with
    | nil => simp
    | cons c more => simp [stops c rfl]
  have someDigits : digits.isEmpty = false := by simpa using nonempty
  simp only [readDigits, cut, someDigits]
  rfl

theorem IsDigits.exists_eq_cons {digits : List Char}
    (isDigits : IsDigits digits) :
    ∃ digit more, digits = digit :: more ∧ digit.isDigit = true := by
  obtain ⟨nonempty, areDigits⟩ := isDigits
  obtain ⟨digit, more, rfl⟩ := List.exists_cons_of_ne_nil nonempty
  exact ⟨digit, more, rfl, areDigits digit List.mem_cons_self⟩

theorem isDigit_of_mem_toDigits {n : Nat} :
    ∀ c ∈ Nat.toDigits 10 n, c.isDigit = true := by
  intro c member
  exact Nat.isDigit_of_mem_toDigits (by decide) (by decide) member

theorem isDigits_toDigits (n : Nat) : IsDigits (Nat.toDigits 10 n) :=
  ⟨Nat.toDigits_ne_nil, isDigit_of_mem_toDigits⟩

theorem decimalValue_toDigits (n : Nat) :
    decimalValue (Nat.toDigits 10 n) = n :=
  Nat.ofDigitChars_toDigits (by decide) (by decide)

/-- Only the number zero is written with a zero in front. -/
theorem eq_zero_of_head?_toDigits {n : Nat}
    (zeroFirst : (Nat.toDigits 10 n).head? = some '0') : n = 0 := by
  induction n using Nat.strongRecOn with
  | ind n inductionHypothesis =>
      by_cases small : n < 10
      · rw [Nat.toDigits_of_lt_base small] at zeroFirst
        simpa using zeroFirst
      · have large : 10 ≤ n := Nat.le_of_not_lt small
        obtain ⟨digit, digits, quotient⟩ :=
          List.exists_cons_of_ne_nil
            (Nat.toDigits_ne_nil : Nat.toDigits 10 (n / 10) ≠ [])
        have quotientFirst : (Nat.toDigits 10 (n / 10)).head? = some '0' := by
          rw [Nat.toDigits_of_base_le (by decide) large, quotient]
            at zeroFirst
          rw [quotient]
          exact zeroFirst
        have quotientZero :=
          inductionHypothesis (n / 10) (by omega) quotientFirst
        omega

theorem isWhole_toDigits (n : Nat) : IsWhole (Nat.toDigits 10 n) := by
  refine ⟨isDigits_toDigits n, ?_⟩
  intro zeroFirst
  rw [eq_zero_of_head?_toDigits zeroFirst, Nat.toDigits_zero]

/-- A digit is written for its value. -/
theorem digitChar_of_isDigit {c : Char} (isDigit : c.isDigit = true) :
    c.toNat - '0'.toNat < 10 ∧ Nat.digitChar (c.toNat - '0'.toNat) = c := by
  have everyDigit : ∀ value : Fin 10,
      Nat.digitChar value.val = Char.ofNat ('0'.toNat + value.val) := by
    decide
  obtain ⟨lower, upper⟩ := isDigit_iff.1 isDigit
  have atLeast : '0'.toNat ≤ c.toNat := lower
  have atMost : c.toNat ≤ '0'.toNat + 9 := upper
  have small : c.toNat - '0'.toNat < 10 := by omega
  have written := everyDigit ⟨c.toNat - '0'.toNat, small⟩
  refine ⟨small, written.trans ?_⟩
  rw [Nat.add_sub_cancel' atLeast, Char.ofNat_toNat]

/-- Only what is written for a number denotes it without zeros in front. -/
theorem IsWhole.toDigits_decimalValue {whole : List Char}
    (isWhole : IsWhole whole) :
    Nat.toDigits 10 (decimalValue whole) = whole := by
  induction whole using List.reverseRecOn with
  | nil => exact absurd rfl isWhole.1.1
  | append_singleton digits last inductionHypothesis =>
      obtain ⟨⟨_, areDigits⟩, zeroAlone⟩ := isWhole
      have lastIsDigit : last.isDigit = true := areDigits last (by simp)
      obtain ⟨small, written⟩ := digitChar_of_isDigit lastIsDigit
      have value :
          decimalValue (digits ++ [last]) =
            10 * decimalValue digits + (last.toNat - '0'.toNat) := by
        rw [decimalValue, Nat.ofDigitChars_append, Nat.ofDigitChars_cons,
          Nat.ofDigitChars_nil, decimalValue]
      rw [value]
      cases digits with
      | nil =>
          have noDigits : decimalValue [] = 0 := rfl
          rw [noDigits, Nat.mul_zero, Nat.zero_add,
            Nat.toDigits_of_lt_base small, written]
          rfl
      | cons first more =>
          have digitsWhole : IsWhole (first :: more) := by
            refine ⟨⟨List.cons_ne_nil first more, ?_⟩, ?_⟩
            · intro c member
              exact areDigits c (List.mem_append_left [last] member)
            · intro zeroFirst
              have alone := congrArg List.length (zeroAlone zeroFirst)
              simp at alone
          have digitsWritten := inductionHypothesis digitsWhole
          have positive : decimalValue (first :: more) ≠ 0 := by
            intro zero
            rw [zero, Nat.toDigits_zero] at digitsWritten
            have alone :=
              zeroAlone (by rw [← digitsWritten]; rfl)
            have lengths := congrArg List.length alone
            simp at lengths
          rw [Nat.toDigits_of_base_le (by decide) (by omega)]
          have quotient :
              (10 * decimalValue (first :: more) +
                (last.toNat - '0'.toNat)) / 10 =
                decimalValue (first :: more) := by
            omega
          have remainder :
              (10 * decimalValue (first :: more) +
                (last.toNat - '0'.toNat)) % 10 =
                last.toNat - '0'.toNat := by
            omega
          rw [quotient, remainder, digitsWritten, written]

/-! ## The parts of a number -/

theorem readMinus_of_isDigit {digit : Char} (isDigit : digit.isDigit = true)
    (rest : List Char) :
    readMinus (digit :: rest) = (false, digit :: rest) := by
  unfold readMinus
  split
  · rename_i found
    obtain ⟨rfl, _⟩ := List.cons.inj found
    cases isDigit
  · rfl

theorem readWhole_append {whole rest : List Char} (isWhole : IsWhole whole)
    (stops : ∀ c ∈ rest.head?, c.isDigit = false) :
    readWhole (whole ++ rest) = some (decimalValue whole, rest) := by
  obtain ⟨isDigits, zeroAlone⟩ := isWhole
  have noZeros : ¬ (whole.head? = some '0' ∧ whole.length ≠ 1) := by
    rintro ⟨zeroFirst, long⟩
    rw [zeroAlone zeroFirst] at long
    exact long rfl
  rw [readWhole, readDigits_append isDigits stops]
  simp only [Option.bind_eq_bind, Option.bind_some, if_neg noZeros]
  rfl

theorem readExponentDigits_of_isDigit {digit : Char}
    (isDigit : digit.isDigit = true) (rest : List Char) :
    readExponentDigits (digit :: rest) =
      (readDigits (digit :: rest)).map fun (digits, rest) =>
        ((decimalValue digits : Int), rest) := by
  unfold readExponentDigits
  split
  · rename_i found
    obtain ⟨rfl, _⟩ := List.cons.inj found
    cases isDigit
  · rename_i found
    obtain ⟨rfl, _⟩ := List.cons.inj found
    cases isDigit
  · rfl

theorem readExponentDigits_append {digits rest : List Char}
    (isDigits : IsDigits digits)
    (stops : ∀ c ∈ rest.head?, c.isDigit = false) :
    readExponentDigits (digits ++ rest) =
      some ((decimalValue digits : Int), rest) := by
  obtain ⟨digit, more, starts, isDigit⟩ := isDigits.exists_eq_cons
  have read := readDigits_append isDigits stops
  rw [starts, List.cons_append] at read ⊢
  rw [readExponentDigits_of_isDigit isDigit, read, Option.map_some]

theorem readExponent_mark {mark : Char} (isMark : IsExponentMark mark)
    (rest : List Char) :
    readExponent (mark :: rest) =
      (readExponentDigits rest).map fun (exponent, rest) =>
        (some exponent, rest) := by
  rcases isMark with rfl | rfl <;> rfl

theorem readExponent_append {text : List Char} {exponent : Option Int}
    (spelling : ExponentSpelling text exponent) {rest : List Char}
    (ends : EndsNumber rest) :
    readExponent (text ++ rest) = some (exponent, rest) := by
  cases spelling with
  | absent =>
      rw [List.nil_append]
      unfold readExponent
      split
      · exact absurd rfl (ends 'e' rfl).2.2.1
      · exact absurd rfl (ends 'E' rfl).2.2.2
      · rfl
  | bare isMark isDigits =>
      rw [List.cons_append, readExponent_mark isMark,
        readExponentDigits_append isDigits ends.stops, Option.map_some]
  | plus isMark isDigits =>
      rw [List.cons_append, List.cons_append, readExponent_mark isMark,
        readExponentDigits, readDigits_append isDigits ends.stops]
      rfl
  | minus isMark isDigits =>
      rw [List.cons_append, List.cons_append, readExponent_mark isMark,
        readExponentDigits, readDigits_append isDigits ends.stops]
      rfl

theorem readFraction_append {fraction rest : List Char}
    (areDigits : ∀ c ∈ fraction, c.isDigit = true)
    (stops : ∀ c ∈ rest.head?, c.isDigit = false ∧ c ≠ '.') :
    readFraction (writeFraction fraction ++ rest) = some (fraction, rest) := by
  cases fraction with
  | nil =>
      change readFraction rest = _
      unfold readFraction
      split
      · exact absurd rfl (stops '.' rfl).2
      · rfl
  | cons digit digits =>
      exact readDigits_append ⟨List.cons_ne_nil digit digits, areDigits⟩
        fun c member => (stops c member).1

/-- Neither an exponent nor what ends a number goes on with a digit or a
point. -/
theorem ExponentSpelling.stops {text : List Char} {exponent : Option Int}
    (spelling : ExponentSpelling text exponent) {rest : List Char}
    (ends : EndsNumber rest) :
    ∀ c ∈ (text ++ rest).head?, c.isDigit = false ∧ c ≠ '.' := by
  have markStops {mark : Char} (isMark : IsExponentMark mark) :
      mark.isDigit = false ∧ mark ≠ '.' := by
    rcases isMark with rfl | rfl <;> decide
  intro c first
  cases spelling with
  | absent => exact ⟨(ends c first).1, (ends c first).2.1⟩
  | bare isMark _ =>
      cases first
      exact markStops isMark
  | plus isMark _ =>
      cases first
      exact markStops isMark
  | minus isMark _ =>
      cases first
      exact markStops isMark

theorem stops_writeFraction_append (fraction : List Char) {rest : List Char}
    (stops : ∀ c ∈ rest.head?, c.isDigit = false ∧ c ≠ '.') :
    ∀ c ∈ (writeFraction fraction ++ rest).head?, c.isDigit = false := by
  cases fraction with
  | nil => exact fun c first => (stops c first).1
  | cons digit digits =>
      intro c first
      cases first
      decide

/-! ## A number as a whole -/

/-- A number starts with a sign or a digit. -/
theorem NumberSpelling.exists_append_eq_cons {text : List Char}
    {numeral : Number} (spelling : NumberSpelling text numeral)
    (rest : List Char) :
    ∃ c more, text ++ rest = c :: more ∧ (c = '-' ∨ c.isDigit = true) := by
  obtain ⟨negative, isWhole, _, _⟩ := spelling
  cases negative with
  | true => exact ⟨'-', _, rfl, Or.inl rfl⟩
  | false =>
      obtain ⟨digit, more, rfl, isDigit⟩ := isWhole.1.exists_eq_cons
      exact ⟨digit, _, rfl, Or.inr isDigit⟩

/-- A number is read in all its parts. -/
theorem NumberSpelling.readNumber_append {text : List Char}
    {numeral : Number} (spelling : NumberSpelling text numeral)
    {rest : List Char} (ends : EndsNumber rest) :
    readNumber (text ++ rest) = some (numeral, rest) := by
  cases spelling with
  | @parts whole fraction exponentText exponent negative isWhole areDigits
      exponentSpelling =>
      have exponentRead := readExponent_append exponentSpelling ends
      have exponentStops := exponentSpelling.stops ends
      have fractionRead := readFraction_append areDigits exponentStops
      have wholeRead :=
        readWhole_append isWhole
          (stops_writeFraction_append fraction exponentStops)
      have minusRead :
          readMinus
              ((if negative then ['-'] else []) ++
                (whole ++ (writeFraction fraction ++ exponentText)) ++ rest) =
            (negative,
              whole ++
                (writeFraction fraction ++ (exponentText ++ rest))) := by
        cases negative with
        | true => simp [readMinus]
        | false =>
            obtain ⟨digit, more, rfl, isDigit⟩ := isWhole.1.exists_eq_cons
            simp only [Bool.false_eq_true, if_false, List.nil_append,
              List.append_assoc, List.cons_append]
            exact readMinus_of_isDigit isDigit _
      simp only [readNumber, minusRead, wholeRead, fractionRead, exponentRead,
        Option.bind_eq_bind, Option.bind_some]
      rfl

/-- A natural number is spelt in one way only: by its digits. -/
theorem numberSpelling_natural_iff {text : List Char} {n : Nat} :
    NumberSpelling text { whole := n } ↔ text = Nat.toDigits 10 n := by
  constructor
  · intro spelling
    cases spelling with
    | parts _ isWhole _ noExponent =>
        cases noExponent
        rw [isWhole.toDigits_decimalValue]
        simp [writeFraction]
  · rintro rfl
    have spelling :=
      NumberSpelling.parts false (isWhole_toDigits n) (List.forall_mem_nil _)
        ExponentSpelling.absent
    rw [decimalValue_toDigits] at spelling
    simpa [writeFraction] using spelling

/-! ## Written numbers -/

/-- An exponent, as it is written. -/
def writeExponent : Option Int → List Char
  | some exponent => 'e' :: (toString exponent).toList
  | none => []

theorem writeNumber_eq (numeral : Number) :
    writeNumber numeral =
      (if numeral.negative then ['-'] else []) ++
        (Nat.toDigits 10 numeral.whole ++
          (writeFraction numeral.fraction ++
            writeExponent numeral.exponent)) := by
  rw [writeNumber, List.append_assoc, List.append_assoc]
  cases numeral.exponent <;> rfl

theorem exponentSpelling_writeExponent (exponent : Option Int) :
    ExponentSpelling (writeExponent exponent) exponent := by
  cases exponent with
  | none => exact ExponentSpelling.absent
  | some exponent =>
      rw [writeExponent, Int.toString_eq_repr, Int.repr_eq_if]
      by_cases nonnegative : 0 ≤ exponent
      · have spelling :=
          ExponentSpelling.bare (Or.inl rfl)
            (isDigits_toDigits exponent.toNat)
        rw [decimalValue_toDigits, Int.toNat_of_nonneg nonnegative] at spelling
        rwa [if_pos nonnegative, Nat.toList_repr]
      · have opposite : 0 ≤ -exponent := by omega
        have signed :
            ("-" ++ (-exponent).toNat.repr).toList =
              '-' :: Nat.toDigits 10 (-exponent).toNat := by
          rw [String.toList_append, Nat.toList_repr]
          rfl
        have spelling :=
          ExponentSpelling.minus (Or.inl rfl)
            (isDigits_toDigits (-exponent).toNat)
        rw [decimalValue_toDigits, Int.toNat_of_nonneg opposite, Int.neg_neg]
          at spelling
        rwa [if_neg nonnegative, signed]

theorem numberSpelling_writeNumber {numeral : Number}
    (areDigits : numeral.IsSpelling) :
    NumberSpelling (writeNumber numeral) numeral := by
  have spelling :=
    NumberSpelling.parts numeral.negative (isWhole_toDigits numeral.whole)
      areDigits (exponentSpelling_writeExponent numeral.exponent)
  rw [decimalValue_toDigits] at spelling
  rwa [writeNumber_eq]

end Preflight.Json
