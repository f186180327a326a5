import Preflight.Proofs.Json.Reading

/-!
# Reading only what the grammar spells

Whatever is read off the front of a text is spelled there, with white space in
front. Together with reading every spelling this makes the reader a decision
procedure for the grammar.
-/

namespace Preflight.Json

open Text

theorem exists_white_append (text : List Char) :
    ∃ before, IsWhite before ∧ text = before ++ skipSpace text :=
  ⟨text.takeWhile isSpace, fun _ => List.mem_takeWhile_imp,
    (List.takeWhile_append_dropWhile).symm⟩

/-! ## Strings -/

theorem mem_letterEscapes_of_escaped? {letter c : Char}
    (denoted : escaped? letter = some c) :
    (c, letter) ∈ ('/', '/') :: letterEscapes := by
  unfold escaped? at denoted
  repeat'
    split at denoted
    · rename_i same
      cases denoted
      rw [same]
      decide
  cases denoted

theorem UnitSpelling.exists_cons {piece more rest : List Char}
    {unit : StringUnit} {units : List StringUnit}
    (spelling : UnitSpelling piece unit)
    (behind :
      ∃ inside, more = inside ++ '"' :: rest ∧ UnitsSpelling inside units) :
    ∃ inside,
      piece ++ more = inside ++ '"' :: rest ∧
        UnitsSpelling inside (unit :: units) := by
  obtain ⟨inside, rfl, laterSpelling⟩ := behind
  exact
    ⟨piece ++ inside, (List.append_assoc _ _ _).symm,
      UnitsSpelling.cons spelling laterSpelling⟩

/-- What is read of a string is spelled up to its closing quote. -/
theorem exists_unitsSpelling {text rest : List Char} {units : List StringUnit}
    (read : readUnits text = some (units, rest)) :
    ∃ inside, text = inside ++ '"' :: rest ∧ UnitsSpelling inside units := by
  induction text using readUnits.induct generalizing units with
  | case1 => cases read
  | case2 more =>
      rw [readUnits] at read
      cases read
      exact ⟨[], rfl, UnitsSpelling.nil⟩
  | case3 a b c d more inductionHypothesis =>
      cases denoted : numberInBase? 16 [a, b, c, d] with
      | none =>
          rw [readUnits, denoted] at read
          cases read
      | some code =>
          rw [readUnits_code denoted] at read
          obtain ⟨⟨later, _⟩, readLater, same⟩ := Option.map_eq_some_iff.1 read
          cases same
          have spelling : UnitSpelling ['\\', 'u', a, b, c, d] (.code code) :=
            UnitSpelling.code denoted
          exact spelling.exists_cons (inductionHypothesis readLater)
  | case4 letter more notCode inductionHypothesis =>
      cases denoted : escaped? letter with
      | none =>
          rw [readUnits, denoted] at read
          · cases read
          · exact notCode
      | some c =>
          have listed := mem_letterEscapes_of_escaped? denoted
          have notCodeLetter := (escaped?_of_mem_letterEscapes _ listed).1
          rw [readUnits_letter notCodeLetter denoted] at read
          obtain ⟨⟨later, _⟩, readLater, same⟩ := Option.map_eq_some_iff.1 read
          cases same
          have spelling : UnitSpelling ['\\', letter] (.char c) :=
            UnitSpelling.letter listed
          exact spelling.exists_cons (inductionHypothesis readLater)
  | case5 c more notQuote notCode notLetter control =>
      rw [readUnits, if_pos control] at read
      · cases read
      · exact notQuote
      · exact notCode
      · exact notLetter
  | case6 c more notQuote notCode notLetter notControl inductionHypothesis =>
      have notBackslash : c ≠ '\\' := by
        rintro rfl
        cases more with
        | nil =>
            rw [readUnits, if_neg notControl] at read
            · cases read
            · exact notQuote
            · exact notCode
            · exact notLetter
        | cons letter more => exact notLetter letter more rfl rfl
      rw [readUnits_plain notQuote notBackslash notControl] at read
      obtain ⟨⟨later, _⟩, readLater, same⟩ := Option.map_eq_some_iff.1 read
      cases same
      have spelling : UnitSpelling [c] (.char c) :=
        UnitSpelling.plain notQuote notBackslash (Nat.le_of_not_lt notControl)
      exact spelling.exists_cons (inductionHypothesis readLater)

theorem exists_stringSpelling {text rest : List Char}
    {content : Option String} (read : readString text = some (content, rest)) :
    ∃ quoted, '"' :: text = quoted ++ rest ∧ StringSpelling quoted content := by
  obtain ⟨⟨units, behind⟩, readUnits, same⟩ := Option.map_eq_some_iff.1 read
  obtain ⟨rfl, rfl⟩ := Prod.mk.inj same
  obtain ⟨inside, rfl, spelling⟩ := exists_unitsSpelling readUnits
  refine ⟨'"' :: (inside ++ ['"']), ?_, StringSpelling.quoted spelling ?_⟩
  · rw [List.cons_append, List.append_assoc, List.singleton_append]
  · intro text
    rw [Option.map_eq_some_iff, ← joinUnits_eq_some_iff]
    constructor
    · rintro ⟨characters, joined, rfl⟩
      rw [joined, String.toList_ofList]
    · intro joined
      exact ⟨text.toList, joined, String.ofList_toList⟩

/-! ## Numbers -/

theorem isDigits_of_readDigits {text digits rest : List Char}
    (read : readDigits text = some (digits, rest)) :
    text = digits ++ rest ∧ IsDigits digits := by
  simp only [readDigits, List.span_eq_takeWhile_dropWhile] at read
  split at read
  · cases read
  · rename_i nonempty
    cases read
    refine ⟨List.takeWhile_append_dropWhile.symm, ?_, ?_⟩
    · simpa using nonempty
    · intro c
      exact List.mem_takeWhile_imp

theorem readMinus_eq (text : List Char) :
    text =
      (if (readMinus text).1 then ['-'] else []) ++ (readMinus text).2 := by
  unfold readMinus
  split <;> rfl

theorem exists_isWhole {text rest : List Char} {n : Nat}
    (read : readWhole text = some (n, rest)) :
    ∃ digits, text = digits ++ rest ∧ IsWhole digits ∧
      n = decimalValue digits := by
  simp only [readWhole, Option.bind_eq_bind] at read
  obtain ⟨⟨digits, behind⟩, readDigits, readValue⟩ :=
    Option.bind_eq_some_iff.1 read
  obtain ⟨starts, isDigits⟩ := isDigits_of_readDigits readDigits
  split at readValue
  · cases readValue
  · rename_i noZeros
    cases readValue
    refine ⟨digits, starts, ⟨isDigits, ?_⟩, rfl⟩
    intro zeroFirst
    have single : digits.length = 1 := by
      by_contra long
      exact noZeros ⟨zeroFirst, long⟩
    obtain ⟨digit, rfl⟩ := List.length_eq_one_iff.1 single
    cases zeroFirst
    rfl

theorem isFraction_of_readFraction {text fraction rest : List Char}
    (read : readFraction text = some (fraction, rest)) :
    text = writeFraction fraction ++ rest ∧
      ∀ c ∈ fraction, c.isDigit = true := by
  unfold readFraction at read
  split at read
  · obtain ⟨rfl, nonempty, areDigits⟩ := isDigits_of_readDigits read
    refine ⟨?_, areDigits⟩
    have isEmpty : fraction.isEmpty = false := by simpa using nonempty
    rw [writeFraction, isEmpty]
    rfl
  · cases read
    exact ⟨rfl, List.forall_mem_nil _⟩

theorem exists_exponentSpelling {text rest : List Char}
    {exponent : Option Int} (read : readExponent text = some (exponent, rest)) :
    ∃ spelled, text = spelled ++ rest ∧ ExponentSpelling spelled exponent := by
  have digitsRead {text : List Char} {n : Int} {mark : Char}
      (isMark : IsExponentMark mark)
      (read : readExponentDigits text = some (n, rest)) :
      ∃ spelled, mark :: text = spelled ++ rest ∧
        ExponentSpelling spelled (some n) := by
    unfold readExponentDigits at read
    split at read
    all_goals
      obtain ⟨⟨digits, behind⟩, readDigits, same⟩ :=
        Option.map_eq_some_iff.1 read
      cases same
      obtain ⟨rfl, isDigits⟩ := isDigits_of_readDigits readDigits
    · exact ⟨_, rfl, ExponentSpelling.minus isMark isDigits⟩
    · exact ⟨_, rfl, ExponentSpelling.plus isMark isDigits⟩
    · exact ⟨_, rfl, ExponentSpelling.bare isMark isDigits⟩
  unfold readExponent at read
  split at read
  · obtain ⟨⟨n, behind⟩, readDigits, same⟩ := Option.map_eq_some_iff.1 read
    cases same
    exact digitsRead (Or.inl rfl) readDigits
  · obtain ⟨⟨n, behind⟩, readDigits, same⟩ := Option.map_eq_some_iff.1 read
    cases same
    exact digitsRead (Or.inr rfl) readDigits
  · cases read
    exact ⟨[], rfl, ExponentSpelling.absent⟩

theorem exists_numberSpelling {text rest : List Char} {numeral : Number}
    (read : readNumber text = some (numeral, rest)) :
    ∃ spelled, text = spelled ++ rest ∧ NumberSpelling spelled numeral := by
  simp only [readNumber, Option.bind_eq_bind] at read
  obtain ⟨⟨whole, behindWhole⟩, wholeRead, read⟩ :=
    Option.bind_eq_some_iff.1 read
  obtain ⟨⟨fraction, behindFraction⟩, fractionRead, read⟩ :=
    Option.bind_eq_some_iff.1 read
  obtain ⟨⟨exponent, behind⟩, exponentRead, same⟩ :=
    Option.bind_eq_some_iff.1 read
  cases same
  obtain ⟨digits, wholeStarts, isWhole, rfl⟩ := exists_isWhole wholeRead
  obtain ⟨fractionStarts, areDigits⟩ := isFraction_of_readFraction fractionRead
  obtain ⟨exponentText, exponentStarts, spelling⟩ :=
    exists_exponentSpelling exponentRead
  refine
    ⟨_, ?_, NumberSpelling.parts (readMinus text).1 isWhole areDigits spelling⟩
  have starts := readMinus_eq text
  rw [wholeStarts] at starts
  simp only [List.append_assoc]
  rw [← exponentStarts, ← fractionStarts]
  exact starts

/-! ## Values -/

/-- A value is spelled at the front of a text, behind white space. -/
def IsSpelledAt (text : List Char) (value : Json) (rest : List Char) : Prop :=
  ∃ before spelled,
    IsWhite before ∧ text = before ++ (spelled ++ rest) ∧
      Spelling spelled value

theorem exists_scalarSpelling {text rest : List Char} {value : Json}
    (read : readScalar text = some (value, rest)) :
    ∃ spelled, text = spelled ++ rest ∧ Spelling spelled value := by
  unfold readScalar at read
  split at read
  · rename_i starts
    cases read
    exact ⟨_, dropStart?_eq_some_iff.1 starts, Spelling.null⟩
  · split at read
    · rename_i starts
      cases read
      exact ⟨_, dropStart?_eq_some_iff.1 starts, Spelling.true⟩
    · split at read
      · rename_i starts
        cases read
        exact ⟨_, dropStart?_eq_some_iff.1 starts, Spelling.false⟩
      · obtain ⟨⟨numeral, behind⟩, numberRead, same⟩ :=
          Option.map_eq_some_iff.1 read
        cases same
        obtain ⟨spelled, starts, spelling⟩ := exists_numberSpelling numberRead
        exact ⟨spelled, starts, Spelling.number spelling⟩

/-- The elements of an array are spelled at the front of a text, up to the
bracket that closes the array. -/
def AreElementsAt (text : List Char) (elements : List Json)
    (rest : List Char) : Prop :=
  ∃ slots : List Slot,
    slots ≠ [] ∧ (∀ slot ∈ slots, slot.IsPadded) ∧
      (∀ slot ∈ slots, Spelling slot.text slot.value) ∧
      text = [','].intercalate (slots.map Slot.spelling) ++ ']' :: rest ∧
      elements = slots.map Slot.value

/-- The members of an object are spelled at the front of a text, up to the
brace that closes the object. -/
def AreMembersAt (text : List Char) (entries : List (Option String × Json))
    (rest : List Char) : Prop :=
  ∃ members : List MemberSlot,
    members ≠ [] ∧ (∀ member ∈ members, member.IsPadded) ∧
      (∀ member ∈ members, StringSpelling member.text member.key) ∧
      (∀ member ∈ members, Spelling member.slot.text member.slot.value) ∧
      text =
        [','].intercalate (members.map MemberSlot.spelling) ++
          '\x7d' :: rest ∧
      entries = members.map MemberSlot.entry

section Steps

variable {fuel : Nat} {text rest : List Char}

/-- What a step over elements reads: a value, and then the bracket or a comma
with the other elements. -/
theorem readElements_succ_eq_some {elements : List Json}
    (read : readElements (fuel + 1) text = some (elements, rest)) :
    ∃ element behind,
      readValue fuel text = some (element, behind) ∧
        ((skipSpace behind = ']' :: rest ∧ elements = [element]) ∨
          ∃ later more,
            skipSpace behind = ',' :: later ∧
              readElements fuel later = some (more, rest) ∧
              elements = element :: more) := by
  rw [readElements] at read
  split at read
  · cases read
  · rename_i element behind valueRead
    refine ⟨element, behind, valueRead, ?_⟩
    split at read
    · rename_i closes
      cases read
      exact Or.inl ⟨closes, rfl⟩
    · rename_i later goesOn
      obtain ⟨⟨more, _⟩, laterRead, same⟩ := Option.map_eq_some_iff.1 read
      cases same
      exact Or.inr ⟨later, more, goesOn, laterRead, rfl⟩
    · cases read

/-- What a step over members reads: a key, a colon and a value, and then the
brace or a comma with the other members. -/
theorem readMembers_succ_eq_some {members : List (Option String × Json)}
    (read : readMembers (fuel + 1) text = some (members, rest)) :
    ∃ quoted key colon spelt value behind,
      skipSpace text = '"' :: quoted ∧
        readString quoted = some (key, colon) ∧
        skipSpace colon = ':' :: spelt ∧
        readValue fuel spelt = some (value, behind) ∧
        ((skipSpace behind = '\x7d' :: rest ∧ members = [(key, value)]) ∨
          ∃ later more,
            skipSpace behind = ',' :: later ∧
              readMembers fuel later = some (more, rest) ∧
              members = (key, value) :: more) := by
  rw [readMembers] at read
  split at read
  case h_2 => cases read
  case h_1 quoted quote =>
  split at read
  case h_1 => cases read
  case h_2 key colon keyRead =>
  split at read
  case h_2 => cases read
  case h_1 spelt colonRead =>
  split at read
  case h_1 => cases read
  case h_2 value behind valueRead =>
  refine
    ⟨quoted, key, colon, spelt, value, behind, quote, keyRead, colonRead,
      valueRead, ?_⟩
  split at read
  · rename_i closes
    cases read
    exact Or.inl ⟨closes, rfl⟩
  · rename_i later goesOn
    obtain ⟨⟨more, _⟩, laterRead, same⟩ := Option.map_eq_some_iff.1 read
    cases same
    exact Or.inr ⟨later, more, goesOn, laterRead, rfl⟩
  · cases read

end Steps

/-! ## Slots -/

/-- What a value leaves is white space up to the next character, which belongs
to the slot of the value. -/
theorem IsSpelledAt.exists_slot {text behind : List Char} {value : Json}
    (spelledAt : IsSpelledAt text value behind) :
    ∃ slot : Slot,
      slot.IsPadded ∧ Spelling slot.text slot.value ∧ slot.value = value ∧
        text = slot.spelling ++ skipSpace behind := by
  obtain ⟨before, spelled, whiteBefore, rfl, spelling⟩ := spelledAt
  obtain ⟨space, white, same⟩ := exists_white_append behind
  refine
    ⟨⟨before, spelled, value, space⟩, ⟨whiteBefore, white⟩, spelling, rfl, ?_⟩
  simp only [Slot.spelling, List.append_assoc]
  rw [← same]

section Slots

variable {text later rest : List Char}

theorem areElementsAt_singleton {slot : Slot} (padded : slot.IsPadded)
    (spelling : Spelling slot.text slot.value)
    (starts : text = slot.spelling ++ ']' :: rest) :
    AreElementsAt text [slot.value] rest := by
  refine
    ⟨[slot], List.cons_ne_nil slot [], List.forall_mem_singleton.2 padded,
      List.forall_mem_singleton.2 spelling, ?_, rfl⟩
  rw [List.map_singleton, List.intercalate_singleton]
  exact starts

theorem AreElementsAt.cons {slot : Slot} {elements : List Json}
    (elementsAt : AreElementsAt later elements rest) (padded : slot.IsPadded)
    (spelling : Spelling slot.text slot.value)
    (starts : text = slot.spelling ++ ',' :: later) :
    AreElementsAt text (slot.value :: elements) rest := by
  obtain ⟨slots, someSlot, arePadded, areSpelled, rfl, rfl⟩ := elementsAt
  obtain ⟨next, others, rfl⟩ := List.exists_cons_of_ne_nil someSlot
  refine
    ⟨slot :: next :: others, List.cons_ne_nil _ _,
      List.forall_mem_cons.2 ⟨padded, arePadded⟩,
      List.forall_mem_cons.2 ⟨spelling, areSpelled⟩, ?_, rfl⟩
  rw [List.map_cons, List.map_cons, List.intercalate_cons_cons,
    ← List.map_cons, List.append_assoc, List.append_assoc]
  exact starts

theorem areMembersAt_singleton {member : MemberSlot}
    (padded : member.IsPadded)
    (keySpelling : StringSpelling member.text member.key)
    (spelling : Spelling member.slot.text member.slot.value)
    (starts : text = member.spelling ++ '\x7d' :: rest) :
    AreMembersAt text [member.entry] rest := by
  refine
    ⟨[member], List.cons_ne_nil member [], List.forall_mem_singleton.2 padded,
      List.forall_mem_singleton.2 keySpelling,
      List.forall_mem_singleton.2 spelling, ?_, rfl⟩
  rw [List.map_singleton, List.intercalate_singleton]
  exact starts

theorem AreMembersAt.cons {member : MemberSlot}
    {entries : List (Option String × Json)}
    (membersAt : AreMembersAt later entries rest) (padded : member.IsPadded)
    (keySpelling : StringSpelling member.text member.key)
    (spelling : Spelling member.slot.text member.slot.value)
    (starts : text = member.spelling ++ ',' :: later) :
    AreMembersAt text (member.entry :: entries) rest := by
  obtain ⟨members, someMember, arePadded, keysSpelled, areSpelled, rfl, rfl⟩ :=
    membersAt
  obtain ⟨next, others, rfl⟩ := List.exists_cons_of_ne_nil someMember
  refine
    ⟨member :: next :: others, List.cons_ne_nil _ _,
      List.forall_mem_cons.2 ⟨padded, arePadded⟩,
      List.forall_mem_cons.2 ⟨keySpelling, keysSpelled⟩,
      List.forall_mem_cons.2 ⟨spelling, areSpelled⟩, ?_, rfl⟩
  rw [List.map_cons, List.map_cons, List.intercalate_cons_cons,
    ← List.map_cons, List.append_assoc, List.append_assoc]
  exact starts

/-- A key, a colon and a value make up the slot of a member. -/
theorem IsSpelledAt.exists_member {quoted colon spelt behind : List Char}
    {key : Option String} {value : Json}
    (quote : skipSpace text = '"' :: quoted)
    (keyRead : readString quoted = some (key, colon))
    (colonRead : skipSpace colon = ':' :: spelt)
    (spelledAt : IsSpelledAt spelt value behind) :
    ∃ member : MemberSlot,
      member.IsPadded ∧ StringSpelling member.text member.key ∧
        Spelling member.slot.text member.slot.value ∧
        member.entry = (key, value) ∧
        text = member.spelling ++ skipSpace behind := by
  obtain ⟨slot, padded, spelling, rfl, spelt⟩ := spelledAt.exists_slot
  obtain ⟨before, whiteBefore, textStarts⟩ := exists_white_append text
  obtain ⟨space, white, colonStarts⟩ := exists_white_append colon
  obtain ⟨keyText, keyStarts, keySpelling⟩ := exists_stringSpelling keyRead
  refine
    ⟨⟨before, keyText, key, space, slot⟩, ⟨whiteBefore, white, padded⟩,
      keySpelling, spelling, rfl, ?_⟩
  simp only [MemberSlot.spelling, List.append_assoc, List.cons_append]
  rw [← spelt, ← colonRead, ← colonStarts, ← keyStarts, ← quote]
  exact textStarts

end Slots

/-! ## Values in brackets -/

section Brackets

variable {text rest : List Char}

theorem AreElementsAt.exists_spelling {elements : List Json}
    (elementsAt : AreElementsAt text elements rest) :
    ∃ spelled, '[' :: text = spelled ++ rest ∧
      Spelling spelled (.array elements) := by
  obtain ⟨slots, someSlot, padded, spelling, rfl, rfl⟩ := elementsAt
  refine ⟨_, ?_, Spelling.array someSlot padded spelling⟩
  rw [List.cons_append, List.append_assoc, List.singleton_append]

theorem exists_emptyArray (closes : skipSpace text = ']' :: rest) :
    ∃ spelled, '[' :: text = spelled ++ rest ∧
      Spelling spelled (.array []) := by
  obtain ⟨space, white, starts⟩ := exists_white_append text
  refine ⟨_, ?_, Spelling.emptyArray white⟩
  rw [List.cons_append, List.append_assoc, List.singleton_append, ← closes,
    ← starts]

theorem AreMembersAt.exists_spelling
    {members : List (Option String × Json)}
    (membersAt : AreMembersAt text members rest) :
    ∃ spelled, '\x7b' :: text = spelled ++ rest ∧
      Spelling spelled (.object members) := by
  obtain ⟨slots, someSlot, padded, keySpelling, spelling, rfl, rfl⟩ :=
    membersAt
  refine ⟨_, ?_, Spelling.object someSlot padded keySpelling spelling⟩
  rw [List.cons_append, List.append_assoc, List.singleton_append]

theorem exists_emptyObject (closes : skipSpace text = '\x7d' :: rest) :
    ∃ spelled, '\x7b' :: text = spelled ++ rest ∧
      Spelling spelled (.object []) := by
  obtain ⟨space, white, starts⟩ := exists_white_append text
  refine ⟨_, ?_, Spelling.emptyObject white⟩
  rw [List.cons_append, List.append_assoc, List.singleton_append, ← closes,
    ← starts]

end Brackets

/-! ## Texts -/

/-- With this fuel, the readers read nothing but what is spelled. -/
structure ReadsSpellings (fuel : Nat) : Prop where
  value {text rest : List Char} {value : Json} :
    readValue fuel text = some (value, rest) → IsSpelledAt text value rest
  elements {text rest : List Char} {elements : List Json} :
    readElements fuel text = some (elements, rest) →
      AreElementsAt text elements rest
  members {text rest : List Char} {members : List (Option String × Json)} :
    readMembers fuel text = some (members, rest) →
      AreMembersAt text members rest

namespace ReadsSpellings

variable {fuel : Nat} {text rest : List Char}

theorem value_succ (reads : ReadsSpellings fuel) {value : Json}
    (read : readValue (fuel + 1) text = some (value, rest)) :
    IsSpelledAt text value rest := by
  obtain ⟨before, white, textStarts⟩ := exists_white_append text
  suffices
      ∃ spelled, skipSpace text = spelled ++ rest ∧ Spelling spelled value by
    obtain ⟨spelled, starts, spelling⟩ := this
    rw [starts] at textStarts
    exact ⟨before, spelled, white, textStarts, spelling⟩
  rw [readValue] at read
  split at read
  · rename_i inner bracket
    rw [bracket]
    split at read
    · rename_i closes
      cases read
      exact exists_emptyArray closes
    · obtain ⟨⟨elements, _⟩, elementsRead, same⟩ :=
        Option.map_eq_some_iff.1 read
      cases same
      rw [readElements_skipSpace] at elementsRead
      exact (reads.elements elementsRead).exists_spelling
  · rename_i inner brace
    rw [brace]
    split at read
    · rename_i closes
      cases read
      exact exists_emptyObject closes
    · obtain ⟨⟨members, _⟩, membersRead, same⟩ :=
        Option.map_eq_some_iff.1 read
      cases same
      rw [readMembers_skipSpace] at membersRead
      exact (reads.members membersRead).exists_spelling
  · rename_i quoted quote
    rw [quote]
    obtain ⟨⟨content, _⟩, stringRead, same⟩ := Option.map_eq_some_iff.1 read
    cases same
    obtain ⟨spelled, starts, spelling⟩ := exists_stringSpelling stringRead
    exact ⟨spelled, starts, Spelling.string spelling⟩
  · exact exists_scalarSpelling read

theorem elements_succ (reads : ReadsSpellings fuel) {elements : List Json}
    (read : readElements (fuel + 1) text = some (elements, rest)) :
    AreElementsAt text elements rest := by
  obtain ⟨element, behind, valueRead, ends⟩ := readElements_succ_eq_some read
  obtain ⟨slot, padded, spelling, rfl, starts⟩ :=
    (reads.value valueRead).exists_slot
  obtain ⟨closes, rfl⟩ | ⟨later, more, goesOn, laterRead, rfl⟩ := ends
  · rw [closes] at starts
    exact areElementsAt_singleton padded spelling starts
  · rw [goesOn] at starts
    exact (reads.elements laterRead).cons padded spelling starts

theorem members_succ (reads : ReadsSpellings fuel)
    {members : List (Option String × Json)}
    (read : readMembers (fuel + 1) text = some (members, rest)) :
    AreMembersAt text members rest := by
  obtain ⟨quoted, key, colon, spelt, value, behind, quote, keyRead, colonRead,
    valueRead, ends⟩ := readMembers_succ_eq_some read
  obtain ⟨member, padded, keySpelling, spelling, same, starts⟩ :=
    (reads.value valueRead).exists_member quote keyRead colonRead
  rw [← same] at ends
  obtain ⟨closes, rfl⟩ | ⟨later, more, goesOn, laterRead, rfl⟩ := ends
  · rw [closes] at starts
    exact areMembersAt_singleton padded keySpelling spelling starts
  · rw [goesOn] at starts
    exact
      (reads.members laterRead).cons padded keySpelling spelling starts

end ReadsSpellings

theorem readsSpellings (fuel : Nat) : ReadsSpellings fuel := by
  induction fuel with
  | zero =>
      exact
        { value := fun read => by cases read
          elements := fun read => by cases read
          members := fun read => by cases read }
  | succ fuel inductionHypothesis =>
      exact
        { value := inductionHypothesis.value_succ
          elements := inductionHypothesis.elements_succ
          members := inductionHypothesis.members_succ }

/-- The reader decides the grammar: a text is parsed as a value exactly if it
spells the value. -/
theorem parse?_eq_some_iff {text : List Char} {value : Json} :
    parse? text = some value ↔ Document text value := by
  refine ⟨?_, Document.parse?_eq⟩
  intro parsed
  unfold parse? at parsed
  split at parsed
  · rename_i value rest read
    split at parsed
    · rename_i nothingLeft
      cases parsed
      obtain ⟨slot, padded, spelling, rfl, rfl⟩ :=
        ((readsSpellings _).value read).exists_slot
      rw [List.isEmpty_iff.1 nothingLeft, List.append_nil]
      exact Document.padded padded spelling
    · cases parsed
  · cases parsed

end Preflight.Json
