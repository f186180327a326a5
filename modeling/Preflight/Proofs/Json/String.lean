import Preflight.Json.Writer
import Preflight.Proofs.Json.Grammar

/-!
# Strings in JSON texts

The spelling of a string is read unit by unit up to its closing quote, and its
units are joined to the text that they denote, if there is one. A written
string is one of its spellings, with a text or without one.
-/

namespace Preflight.Json

open Text

/-! ## The text of units -/

theorem UnitsDenote.joinUnits_eq {units : List StringUnit}
    {text : List Char} (denote : UnitsDenote units text) :
    joinUnits none units = some text := by
  induction denote with
  | nil => rfl
  | char c _ inductionHypothesis =>
      rw [joinUnits, inductionHypothesis, Option.map_some]
  | code notHigh notLow _ inductionHypothesis =>
      simp only [joinUnits, notHigh, notLow, inductionHypothesis,
        Bool.false_eq_true, if_false, Option.map_some]
  | pair isHigh isLow _ inductionHypothesis =>
      simp only [joinUnits, isHigh, isLow, inductionHypothesis, if_true,
        Option.map_some]

theorem unitsDenote_of_joinUnits (units : List StringUnit) :
    (∀ text, joinUnits none units = some text → UnitsDenote units text) ∧
      ∀ high text, isHighSurrogate high = true →
        joinUnits (some high) units = some text →
          UnitsDenote (.code high :: units) text := by
  induction units with
  | nil =>
      constructor
      · intro text joined
        cases joined
        exact UnitsDenote.nil
      · intro high text _ joined
        cases joined
  | cons unit units inductionHypothesis =>
      obtain ⟨whole, half⟩ := inductionHypothesis
      cases unit with
      | char c =>
          constructor
          · intro text joined
            rw [joinUnits] at joined
            obtain ⟨more, joinedMore, rfl⟩ := Option.map_eq_some_iff.1 joined
            exact UnitsDenote.char c (whole more joinedMore)
          · intro high text _ joined
            cases joined
      | code code =>
          constructor
          · intro text joined
            rw [joinUnits] at joined
            by_cases isHigh : isHighSurrogate code = true
            · rw [if_pos isHigh] at joined
              exact half code text isHigh joined
            · rw [if_neg isHigh] at joined
              by_cases isLow : isLowSurrogate code = true
              · rw [if_pos isLow] at joined
                cases joined
              · rw [if_neg isLow] at joined
                obtain ⟨more, joinedMore, rfl⟩ :=
                  Option.map_eq_some_iff.1 joined
                exact UnitsDenote.code (Bool.eq_false_iff.2 isHigh)
                  (Bool.eq_false_iff.2 isLow) (whole more joinedMore)
          · intro high text isHigh joined
            rw [joinUnits] at joined
            by_cases isLow : isLowSurrogate code = true
            · rw [if_pos isLow] at joined
              obtain ⟨more, joinedMore, rfl⟩ :=
                Option.map_eq_some_iff.1 joined
              exact UnitsDenote.pair isHigh isLow (whole more joinedMore)
            · rw [if_neg isLow] at joined
              cases joined

theorem joinUnits_eq_some_iff {units : List StringUnit} {text : List Char} :
    joinUnits none units = some text ↔ UnitsDenote units text :=
  ⟨(unitsDenote_of_joinUnits units).1 text, UnitsDenote.joinUnits_eq⟩

/-! ## Reading units -/

/-- What is read behind a unit, with the unit in front. -/
def consUnit (unit : StringUnit) (read : List StringUnit × List Char) :
    List StringUnit × List Char :=
  (unit :: read.1, read.2)

theorem readUnits_letter {letter c : Char} (notCode : letter ≠ 'u')
    (denoted : escaped? letter = some c) (rest : List Char) :
    readUnits ('\\' :: letter :: rest) =
      (readUnits rest).map (consUnit (.char c)) := by
  rw [readUnits, denoted]
  · cases readUnits rest <;> rfl
  · intro _ _ _ _ _ isCode
    exact absurd isCode notCode

theorem readUnits_code {a b c d : Char} {code : Nat}
    (denoted : numberInBase? 16 [a, b, c, d] = some code)
    (rest : List Char) :
    readUnits ('\\' :: 'u' :: a :: b :: c :: d :: rest) =
      (readUnits rest).map (consUnit (.code code)) := by
  rw [readUnits, denoted]
  cases readUnits rest <;> rfl

theorem readUnits_plain {c : Char} (notQuote : c ≠ '"')
    (notBackslash : c ≠ '\\') (notControl : ¬ c.toNat < 0x20)
    (rest : List Char) :
    readUnits (c :: rest) = (readUnits rest).map (consUnit (.char c)) := by
  rw [readUnits, if_neg notControl]
  · cases readUnits rest <;> rfl
  · intro isQuote
    exact notQuote isQuote
  · intro _ _ _ _ _ isBackslash
    exact absurd isBackslash notBackslash
  · intro _ _ isBackslash
    exact absurd isBackslash notBackslash

theorem escaped?_of_mem_letterEscapes :
    ∀ pair ∈ ('/', '/') :: letterEscapes,
      pair.2 ≠ 'u' ∧ escaped? pair.2 = some pair.1 := by
  decide

theorem UnitSpelling.readUnits_append {piece : List Char} {unit : StringUnit}
    (spelling : UnitSpelling piece unit) (rest : List Char) :
    readUnits (piece ++ rest) = (readUnits rest).map (consUnit unit) := by
  cases spelling with
  | plain notQuote notBackslash notControl =>
      exact readUnits_plain notQuote notBackslash (Nat.not_lt.2 notControl) rest
  | letter listed =>
      obtain ⟨notCode, denoted⟩ := escaped?_of_mem_letterEscapes _ listed
      exact readUnits_letter notCode denoted rest
  | code denoted => exact readUnits_code denoted rest

theorem UnitsSpelling.readUnits_append {inside : List Char}
    {units : List StringUnit} (spelling : UnitsSpelling inside units)
    (rest : List Char) :
    readUnits (inside ++ '"' :: rest) = some (units, rest) := by
  induction spelling with
  | nil => exact readUnits.eq_2 rest
  | cons unitSpelling _ inductionHypothesis =>
      rw [List.append_assoc, unitSpelling.readUnits_append,
        inductionHypothesis]
      rfl

/-- A string is read, with its text or without one. -/
theorem StringSpelling.exists_readString {text : List Char}
    {content : Option String} (spelling : StringSpelling text content)
    (rest : List Char) :
    ∃ behind,
      text ++ rest = '"' :: behind ∧
        readString behind = some (content, rest) := by
  cases spelling with
  | @quoted inside units _ unitsSpelling denoted =>
      have joined :
          (joinUnits none units).map String.ofList = content := by
        ext text
        rw [Option.map_eq_some_iff, denoted, ← joinUnits_eq_some_iff]
        constructor
        · rintro ⟨characters, found, rfl⟩
          rw [found, String.toList_ofList]
        · intro found
          exact ⟨text.toList, found, String.ofList_toList⟩
      refine ⟨inside ++ '"' :: rest, ?_, ?_⟩
      · rw [List.cons_append, List.append_assoc]
        rfl
      · rw [readString, unitsSpelling.readUnits_append, ← joined]
        rfl

/-! ## Written strings -/

/-- The code of a control character is no half of a surrogate pair. -/
theorem not_surrogate_of_control {code : Nat} (control : code < 0x20) :
    isHighSurrogate code = false ∧ isLowSurrogate code = false := by
  constructor
  · simp [isHighSurrogate]
    omega
  · simp [isLowSurrogate]
    omega

theorem numberInBase?_control {code : Nat} (control : code < 0x20) :
    numberInBase? 16 ['0', '0', hexDigit (code / 16), hexDigit code] =
      some code := by
  have everyControl : ∀ code : Fin 0x20,
      numberInBase? 16
          ['0', '0', hexDigit (code.val / 16), hexDigit code.val] =
        some code.val := by
    decide
  exact everyControl ⟨code, control⟩

theorem escape_of_mem_letterEscapes :
    ∀ pair ∈ letterEscapes, escape pair.1 = ['\\', pair.2] := by
  decide

/-- A character is escaped by a letter, by its code, or not at all. Each way
spells a unit that denotes it, whatever units follow. -/
theorem exists_unitSpelling_escape (c : Char) :
    ∃ unit : StringUnit,
      UnitSpelling (escape c) unit ∧
        ∀ units text, UnitsDenote units text →
          UnitsDenote (unit :: units) (c :: text) := by
  by_cases listed : c ∈ letterEscapes.map Prod.fst
  · obtain ⟨⟨_, letter⟩, member, rfl⟩ := List.mem_map.1 listed
    rw [escape_of_mem_letterEscapes _ member]
    exact ⟨_, UnitSpelling.letter (List.mem_cons_of_mem _ member),
      fun _ _ denote => UnitsDenote.char _ denote⟩
  · simp only [letterEscapes, List.map_cons, List.map_nil, List.mem_cons,
      List.not_mem_nil, or_false, not_or] at listed
    obtain ⟨notQuote, notBackslash, otherLetters⟩ := listed
    by_cases control : c.toNat < 0x20
    · have written :
          escape c =
            ['\\', 'u', '0', '0', hexDigit (c.toNat / 16), hexDigit c.toNat] := by
        simp [escape, notQuote, notBackslash, otherLetters, control]
      obtain ⟨notHigh, notLow⟩ := not_surrogate_of_control control
      rw [written]
      refine ⟨_, UnitSpelling.code (numberInBase?_control control), ?_⟩
      intro units text denote
      have denoted := UnitsDenote.code notHigh notLow denote
      rwa [Char.ofNat_toNat] at denoted
    · have written : escape c = [c] := by
        simp [escape, notQuote, notBackslash, otherLetters, control]
      rw [written]
      exact ⟨_, UnitSpelling.plain notQuote notBackslash (Nat.not_lt.1 control),
        fun _ _ denote => UnitsDenote.char c denote⟩

theorem exists_unitsSpelling_escapes (text : List Char) :
    ∃ units,
      UnitsSpelling (text.flatMap escape) units ∧ UnitsDenote units text := by
  induction text with
  | nil => exact ⟨[], UnitsSpelling.nil, UnitsDenote.nil⟩
  | cons c more inductionHypothesis =>
      obtain ⟨units, unitsSpelling, denote⟩ := inductionHypothesis
      obtain ⟨unit, unitSpelling, goesOn⟩ := exists_unitSpelling_escape c
      exact ⟨unit :: units, UnitsSpelling.cons unitSpelling unitsSpelling,
        goesOn units more denote⟩

/-- Half of a surrogate pair spells a string without a text. -/
theorem stringSpelling_half :
    StringSpelling (writeString none) none := by
  have written :
      writeString none = '"' :: (['\\', 'u', 'd', '8', '0', '0'] ++ ['"']) := by
    decide
  have code : numberInBase? 16 ['d', '8', '0', '0'] = some 0xd800 := by
    decide
  have noText : joinUnits none [.code 0xd800] = none := by decide
  rw [written]
  refine StringSpelling.quoted
    (UnitsSpelling.cons (UnitSpelling.code code) UnitsSpelling.nil) ?_
  intro text
  rw [← joinUnits_eq_some_iff, noText]
  constructor
  · intro isText
    cases isText
  · intro isText
    cases isText

/-- A written string is spelt, with its text or without one. -/
theorem stringSpelling_writeString (content : Option String) :
    StringSpelling (writeString content) content := by
  cases content with
  | none => exact stringSpelling_half
  | some text =>
      obtain ⟨units, unitsSpelling, denote⟩ :=
        exists_unitsSpelling_escapes text.toList
      refine StringSpelling.quoted unitsSpelling ?_
      intro other
      rw [← joinUnits_eq_some_iff, denote.joinUnits_eq, Option.some.injEq,
        Option.some.injEq, String.toList_inj]

end Preflight.Json
