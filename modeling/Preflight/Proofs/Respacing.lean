import Preflight.Proofs.Entrypoint
import Preflight.Proofs.Keyword
import Preflight.Proofs.Text.Space

/-!
# Respaced texts

A text is respaced when each of its white space characters is replaced by
white space, and by some at least. The rules that look for words do not see
the difference: white space ends words and fills gaps, and no amount of it
does more. So a respaced text declares the same entrypoint and has the same
words and keywords.
-/

namespace Preflight

open Text

/-! ## One white space character -/

namespace Entrypoint

theorem opensCall_cons_of_isSpace {c : Char} (white : isSpace c = true)
    (rest : List Char) : opensCall (c :: rest) = opensCall rest := by
  rw [opensCall, List.dropWhile_cons_of_pos white, opensCall]

theorem opensCall_cons_of_not_isSpace {c : Char} (black : isSpace c = false)
    (rest : List Char) : opensCall (c :: rest) = decide (c = '(') := by
  rw [opensCall, List.dropWhile_cons_of_neg (by simp [black])]
  simp

theorem declaredFrom_cons_of_isSpace {c : Char} (white : isSpace c = true)
    (name : List Char) (afterWord : Bool) (rest : List Char) :
    declaredFrom name afterWord (c :: rest) = declaredFrom name false rest := by
  have noStart : c ≠ 'f' := by
    intro same
    rw [same] at white
    revert white
    decide
  rw [declaredFrom, isWordChar_of_isSpace white, decide_eq_false noStart,
    Bool.and_false, Bool.false_and, Bool.false_or]

theorem gapThenCalls_cons_of_isSpace {c : Char} (white : isSpace c = true)
    (name rest : List Char) :
    gapThenCalls name (c :: rest) =
      (callsName name rest || gapThenCalls name rest) := by
  rw [gapThenCalls, white, Bool.true_and]

theorem gapThenCalls_cons_of_not_isSpace {c : Char}
    (black : isSpace c = false) (name rest : List Char) :
    gapThenCalls name (c :: rest) = false := by
  rw [gapThenCalls, black, Bool.false_and]

end Entrypoint

/-! ## Gaps

A gap is white space, one character of it or more. What a rule does with it
depends on the text behind it only. -/

section Gap

variable {gap : List Char} (spaces : ∀ c ∈ gap, isSpace c = true)

include spaces

theorem Entrypoint.opensCall_append (rest : List Char) :
    opensCall (gap ++ rest) = opensCall rest := by
  rw [opensCall, List.dropWhile_append_of_pos spaces, opensCall]

theorem Entrypoint.declaredFrom_append {name : List Char}
    (nonempty : gap ≠ []) (afterWord : Bool) (rest : List Char) :
    declaredFrom name afterWord (gap ++ rest) =
      declaredFrom name false rest := by
  induction gap generalizing afterWord with
  | nil => exact absurd rfl nonempty
  | cons c more inductionHypothesis =>
      obtain ⟨white, moreSpaces⟩ := List.forall_mem_cons.1 spaces
      rw [List.cons_append, declaredFrom_cons_of_isSpace white]
      cases more with
      | nil => rfl
      | cons second others =>
          exact inductionHypothesis moreSpaces
            (List.cons_ne_nil second others) false

/-- A name that starts with no white space is called behind a gap when it is
called right there or farther on. -/
theorem Entrypoint.gapThenCalls_append {name : List Char}
    (nonempty : gap ≠ [])
    (startsBlack :
      ∀ c text, isSpace c = true → callsName name (c :: text) = false)
    (rest : List Char) :
    gapThenCalls name (gap ++ rest) =
      (callsName name rest || gapThenCalls name rest) := by
  induction gap with
  | nil => exact absurd rfl nonempty
  | cons c more inductionHypothesis =>
      obtain ⟨white, moreSpaces⟩ := List.forall_mem_cons.1 spaces
      rw [List.cons_append, gapThenCalls_cons_of_isSpace white]
      cases more with
      | nil => rfl
      | cons second others =>
          obtain ⟨secondWhite, _⟩ := List.forall_mem_cons.1 moreSpaces
          have notCalled := startsBlack second (others ++ rest) secondWhite
          have calledLater :=
            inductionHypothesis moreSpaces (List.cons_ne_nil second others)
          rw [List.cons_append] at calledLater ⊢
          -- Inside the gap no name is called, so only its end matters.
          rw [notCalled, calledLater, Bool.false_or]

theorem Text.wholeWordsFrom_append (nonempty : gap ≠ []) (afterWord : Bool)
    (offset : Nat) (rest : List Char) :
    wholeWordsFrom afterWord offset (gap ++ rest) =
      wholeWordsFrom false (offset + gap.length) rest := by
  induction gap generalizing afterWord offset with
  | nil => exact absurd rfl nonempty
  | cons c more inductionHypothesis =>
      obtain ⟨white, moreSpaces⟩ := List.forall_mem_cons.1 spaces
      have noWord := isWordChar_of_isSpace white
      rw [List.cons_append, wholeWordsFrom_outside noWord]
      cases more with
      | nil => rfl
      | cons second others =>
          have listedLater :=
            inductionHypothesis moreSpaces (List.cons_ne_nil second others)
              false (offset + 1)
          have sameOffset :
              offset + 1 + (second :: others).length =
                offset + (c :: second :: others).length := by
            simp only [List.length_cons]
            omega
          rw [listedLater, sameOffset]

theorem Text.takeWhile_isWordChar_append (nonempty : gap ≠ [])
    (rest : List Char) : (gap ++ rest).takeWhile isWordChar = [] := by
  cases gap with
  | nil => exact absurd rfl nonempty
  | cons c more =>
      have noWord :=
        isWordChar_of_isSpace (spaces c List.mem_cons_self)
      rw [List.cons_append, List.takeWhile_cons_of_neg (by simp [noWord])]

end Gap

/-! ## Respacing -/

/-- A way to replace white space by white space. Other characters stay as they
are. -/
structure Respacing where
  spread : Char → List Char
  spread_other : ∀ c, isSpace c = false → spread c = [c]
  spread_ne_nil : ∀ c, spread c ≠ []
  isSpace_of_mem_spread :
    ∀ c, isSpace c = true → ∀ d ∈ spread c, isSpace d = true

namespace Respacing

variable (respacing : Respacing)

/-- The respaced text. -/
def apply (text : List Char) : List Char :=
  text.flatMap respacing.spread

theorem apply_cons_of_isSpace {c : Char} (white : isSpace c = true)
    (rest : List Char) :
    ∃ gap,
      gap ≠ [] ∧ (∀ d ∈ gap, isSpace d = true) ∧
        respacing.apply (c :: rest) = gap ++ respacing.apply rest :=
  ⟨respacing.spread c, respacing.spread_ne_nil c,
    respacing.isSpace_of_mem_spread c white, List.flatMap_cons⟩

theorem apply_cons_of_not_isSpace {c : Char} (black : isSpace c = false)
    (rest : List Char) :
    respacing.apply (c :: rest) = c :: respacing.apply rest := by
  rw [apply, List.flatMap_cons, respacing.spread_other c black]
  rfl

/-! ### Blank lines -/

theorem isBlank_apply (line : List Char) :
    isBlank (respacing.apply line) = isBlank line := by
  unfold isBlank
  induction line with
  | nil => rfl
  | cons c rest inductionHypothesis =>
      cases white : isSpace c with
      | true =>
          obtain ⟨gap, _, spaces, spread⟩ :=
            respacing.apply_cons_of_isSpace white rest
          have gapBlank : gap.all isSpace = true := List.all_eq_true.2 spaces
          rw [spread, List.all_append, gapBlank, inductionHypothesis,
            List.all_cons, white]
      | false =>
          rw [respacing.apply_cons_of_not_isSpace white, List.all_cons,
            List.all_cons, white]
          rfl

/-! ### The entrypoint -/

section Declaration

open Entrypoint

theorem opensCall_apply (text : List Char) :
    opensCall (respacing.apply text) = opensCall text := by
  induction text with
  | nil => rfl
  | cons c rest inductionHypothesis =>
      cases white : isSpace c with
      | true =>
          obtain ⟨gap, _, spaces, spread⟩ :=
            respacing.apply_cons_of_isSpace white rest
          rw [spread, opensCall_append spaces, inductionHypothesis,
            opensCall_cons_of_isSpace white]
      | false =>
          rw [respacing.apply_cons_of_not_isSpace white,
            opensCall_cons_of_not_isSpace white,
            opensCall_cons_of_not_isSpace white]

variable {name : List Char} (solid : ∀ c ∈ name, isSpace c = false)

include solid

/-- A name without white space is not called where white space stands. -/
theorem dropStart?_cons_of_isSpace (nonempty : name ≠ []) {c : Char}
    (white : isSpace c = true) (rest : List Char) :
    dropStart? name (c :: rest) = none := by
  cases name with
  | nil => exact absurd rfl nonempty
  | cons n more =>
      have different : n ≠ c := by
        intro same
        have black := solid n List.mem_cons_self
        rw [same, white] at black
        cases black
      rw [dropStart?, if_neg different]

theorem callsName_cons_of_isSpace (nonempty : name ≠ []) {c : Char}
    (white : isSpace c = true) (rest : List Char) :
    callsName name (c :: rest) = false := by
  rw [callsName, dropStart?_cons_of_isSpace solid nonempty white]

theorem dropStart?_apply (text : List Char) :
    dropStart? name (respacing.apply text) =
      (dropStart? name text).map respacing.apply := by
  induction name generalizing text with
  | nil => rfl
  | cons n name inductionHypothesis =>
      obtain ⟨solidHere, solidLater⟩ := List.forall_mem_cons.1 solid
      cases text with
      | nil => rfl
      | cons c rest =>
          cases white : isSpace c with
          | true =>
              obtain ⟨gap, nonempty, spaces, spread⟩ :=
                respacing.apply_cons_of_isSpace white rest
              obtain ⟨first, more, rfl⟩ := List.exists_cons_of_ne_nil nonempty
              have firstWhite := spaces first List.mem_cons_self
              have someName : n :: name ≠ [] := List.cons_ne_nil n name
              -- The name holds no white space, so it fits neither text here.
              rw [spread, List.cons_append,
                dropStart?_cons_of_isSpace solid someName firstWhite,
                dropStart?_cons_of_isSpace solid someName white]
              rfl
          | false =>
              rw [respacing.apply_cons_of_not_isSpace white, dropStart?,
                dropStart?]
              by_cases same : n = c
              · rw [if_pos same, if_pos same]
                exact inductionHypothesis solidLater rest
              · rw [if_neg same, if_neg same]
                rfl

theorem callsName_apply (text : List Char) :
    callsName name (respacing.apply text) = callsName name text := by
  rw [callsName, respacing.dropStart?_apply solid, callsName]
  cases dropStart? name text with
  | none => rfl
  | some behind => exact respacing.opensCall_apply behind

theorem gapThenCalls_apply (nonempty : name ≠ []) (text : List Char) :
    gapThenCalls name (respacing.apply text) = gapThenCalls name text := by
  induction text with
  | nil => rfl
  | cons c rest inductionHypothesis =>
      cases white : isSpace c with
      | true =>
          obtain ⟨gap, someGap, spaces, spread⟩ :=
            respacing.apply_cons_of_isSpace white rest
          have startsBlack :
              ∀ d text, isSpace d = true →
                callsName name (d :: text) = false := by
            intro d text dWhite
            exact callsName_cons_of_isSpace solid nonempty dWhite text
          rw [spread, gapThenCalls_append spaces someGap startsBlack,
            gapThenCalls_cons_of_isSpace white, inductionHypothesis,
            respacing.callsName_apply solid]
      | false =>
          rw [respacing.apply_cons_of_not_isSpace white,
            gapThenCalls_cons_of_not_isSpace white,
            gapThenCalls_cons_of_not_isSpace white]

theorem declaredFrom_apply (nonempty : name ≠ []) (afterWord : Bool)
    (text : List Char) :
    declaredFrom name afterWord (respacing.apply text) =
      declaredFrom name afterWord text := by
  induction text generalizing afterWord with
  | nil => rfl
  | cons c rest inductionHypothesis =>
      cases white : isSpace c with
      | true =>
          obtain ⟨gap, someGap, spaces, spread⟩ :=
            respacing.apply_cons_of_isSpace white rest
          rw [spread, declaredFrom_append spaces someGap,
            declaredFrom_cons_of_isSpace white, inductionHypothesis]
      | false =>
          rw [respacing.apply_cons_of_not_isSpace white, declaredFrom,
            declaredFrom, inductionHypothesis,
            respacing.gapThenCalls_apply solid nonempty]

end Declaration

theorem isDeclared_apply {name : List Char}
    (identifier : isIdentifier name = true) (text : List Char) :
    Entrypoint.isDeclared name (respacing.apply text) =
      Entrypoint.isDeclared name text := by
  obtain ⟨nonempty, inWord⟩ := isWordChar_of_isIdentifier identifier
  have solid : ∀ c ∈ name, isSpace c = false := by
    intro c member
    exact isSpace_of_isWordChar (inWord c member)
  exact respacing.declaredFrom_apply solid nonempty false text

/-! ### Words -/

theorem takeWhile_isWordChar_apply (text : List Char) :
    (respacing.apply text).takeWhile isWordChar =
      text.takeWhile isWordChar := by
  induction text with
  | nil => rfl
  | cons c rest inductionHypothesis =>
      cases white : isSpace c with
      | true =>
          obtain ⟨gap, someGap, spaces, spread⟩ :=
            respacing.apply_cons_of_isSpace white rest
          have noWord := isWordChar_of_isSpace white
          rw [spread, takeWhile_isWordChar_append spaces someGap,
            List.takeWhile_cons_of_neg (by simp [noWord])]
      | false =>
          rw [respacing.apply_cons_of_not_isSpace white, List.takeWhile_cons,
            List.takeWhile_cons, inductionHypothesis]

theorem map_snd_wholeWordsFrom_apply (afterWord : Bool)
    (offset other : Nat) (text : List Char) :
    (wholeWordsFrom afterWord offset (respacing.apply text)).map Prod.snd =
      (wholeWordsFrom afterWord other text).map Prod.snd := by
  induction text generalizing afterWord offset other with
  | nil => rfl
  | cons c rest inductionHypothesis =>
      cases white : isSpace c with
      | true =>
          obtain ⟨gap, someGap, spaces, spread⟩ :=
            respacing.apply_cons_of_isSpace white rest
          have noWord := isWordChar_of_isSpace white
          rw [spread, wholeWordsFrom_append spaces someGap,
            wholeWordsFrom_outside noWord, inductionHypothesis]
      | false =>
          rw [respacing.apply_cons_of_not_isSpace white, wholeWordsFrom,
            wholeWordsFrom, respacing.takeWhile_isWordChar_apply]
          split
          · rw [List.map_cons, List.map_cons, inductionHypothesis]
          · exact inductionHypothesis _ _ _

theorem count_apply (vocabulary : Vocabulary) (text : List Char) :
    vocabulary.count (respacing.apply text) = vocabulary.count text := by
  have sameWords := respacing.map_snd_wholeWordsFrom_apply false 0 0 text
  have sameCount :=
    congrArg
      (List.countP fun word => word ∈ vocabulary.words.map String.toList)
      sameWords
  rw [List.countP_map, List.countP_map] at sameCount
  rw [vocabulary.count_eq_countP, vocabulary.count_eq_countP]
  exact sameCount

end Respacing

end Preflight
