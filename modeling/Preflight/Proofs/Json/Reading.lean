import Mathlib.Data.List.DropRight
import Preflight.Proofs.Json.Number
import Preflight.Proofs.Json.String

/-!
# Reading what the grammar spells

Every spelling of a value is read as that value, whatever follows it, unless
what follows could continue a number. The reader takes two steps of fuel at
most for each character of the spelling.
-/

namespace Preflight.Json

open Text

/-! ## White space -/

theorem skipSpace_append {space : List Char} (white : IsWhite space)
    (rest : List Char) : skipSpace (space ++ rest) = skipSpace rest := by
  rw [skipSpace, List.dropWhile_append_of_pos white, skipSpace]

theorem skipSpace_cons_of_not_isSpace {c : Char} (black : isSpace c = false)
    (rest : List Char) : skipSpace (c :: rest) = c :: rest := by
  rw [skipSpace, List.dropWhile_cons_of_neg (by simp [black])]

theorem skipSpace_skipSpace (text : List Char) :
    skipSpace (skipSpace text) = skipSpace text :=
  List.dropWhile_idempotent isSpace text

theorem skipSpace_of_isWhite {space : List Char} (white : IsWhite space) :
    skipSpace space = [] := by
  rw [← List.append_nil space, skipSpace_append white]
  rfl

theorem endsNumber_of_isSpace {space rest : List Char}
    (white : IsWhite space) (ends : EndsNumber rest) :
    EndsNumber (space ++ rest) := by
  cases space with
  | nil => exact ends
  | cons c more =>
      have isWhite := white c List.mem_cons_self
      simp only [isSpace, Bool.or_eq_true, decide_eq_true_eq] at isWhite
      rw [List.cons_append, endsNumber_cons]
      rcases isWhite with ((rfl | rfl) | rfl) | rfl <;> decide

theorem endsNumber_comma (rest : List Char) : EndsNumber (',' :: rest) :=
  endsNumber_cons.2 (by decide)

theorem endsNumber_bracket (rest : List Char) : EndsNumber (']' :: rest) :=
  endsNumber_cons.2 (by decide)

theorem endsNumber_brace (rest : List Char) : EndsNumber ('\x7d' :: rest) :=
  endsNumber_cons.2 (by decide)

/-! ## The character that a value starts with -/

/-- The characters that can start a value. -/
def StartsValue (c : Char) : Prop :=
  isSpace c = false ∧ c ≠ ']' ∧ c ≠ '\x7d'

instance (c : Char) : Decidable (StartsValue c) :=
  inferInstanceAs (Decidable (_ ∧ _))

theorem ne_of_isDigit {c other : Char} (isDigit : c.isDigit = true)
    (notDigit : other.isDigit = false) : c ≠ other := by
  rintro rfl
  rw [notDigit] at isDigit
  cases isDigit

theorem startsValue_of_isDigit {c : Char} (isDigit : c.isDigit = true) :
    StartsValue c := by
  refine ⟨?_, ne_of_isDigit isDigit (by decide),
    ne_of_isDigit isDigit (by decide)⟩
  simp only [isSpace, Bool.or_eq_false_iff, decide_eq_false_iff_not]
  exact ⟨⟨⟨ne_of_isDigit isDigit (by decide),
    ne_of_isDigit isDigit (by decide)⟩,
    ne_of_isDigit isDigit (by decide)⟩,
    ne_of_isDigit isDigit (by decide)⟩

theorem StringSpelling.exists_append_eq_cons {text : List Char}
    {content : Option String} (spelling : StringSpelling text content)
    (rest : List Char) : ∃ more, text ++ rest = '"' :: more := by
  obtain ⟨behind, starts, _⟩ := spelling.exists_readString rest
  exact ⟨behind, starts⟩

theorem Spelling.exists_append_eq_cons {text : List Char} {value : Json}
    (spelling : Spelling text value) (rest : List Char) :
    ∃ c more, text ++ rest = c :: more ∧ StartsValue c := by
  cases spelling with
  | null => exact ⟨'n', _, rfl, by decide⟩
  | true => exact ⟨'t', _, rfl, by decide⟩
  | false => exact ⟨'f', _, rfl, by decide⟩
  | number spelling =>
      obtain ⟨c, more, starts, signOrDigit⟩ :=
        spelling.exists_append_eq_cons rest
      refine ⟨c, more, starts, ?_⟩
      rcases signOrDigit with rfl | isDigit
      · decide
      · exact startsValue_of_isDigit isDigit
  | string spelling =>
      obtain ⟨more, starts⟩ := spelling.exists_append_eq_cons rest
      exact ⟨'"', more, starts, by decide⟩
  | emptyArray _ => exact ⟨'[', _, rfl, by decide⟩
  | array _ _ _ => exact ⟨'[', _, rfl, by decide⟩
  | emptyObject _ => exact ⟨'\x7b', _, rfl, by decide⟩
  | object _ _ _ _ => exact ⟨'\x7b', _, rfl, by decide⟩

theorem Spelling.skipSpace_append {text : List Char} {value : Json}
    (spelling : Spelling text value) (rest : List Char) :
    skipSpace (text ++ rest) = text ++ rest := by
  obtain ⟨c, more, starts, startsValue⟩ := spelling.exists_append_eq_cons rest
  rw [starts, skipSpace_cons_of_not_isSpace startsValue.1]

theorem Spelling.length_pos {text : List Char} {value : Json}
    (spelling : Spelling text value) : 0 < text.length := by
  obtain ⟨c, more, starts, _⟩ := spelling.exists_append_eq_cons []
  rw [List.append_nil] at starts
  rw [starts]
  exact Nat.succ_pos more.length

/-! ## Scalars -/

theorem readValue_scalar {c : Char} {text more : List Char}
    (starts : skipSpace text = c :: more) (notBracket : c ≠ '[')
    (notBrace : c ≠ '\x7b') (notQuote : c ≠ '"') (fuel : Nat) :
    readValue (fuel + 1) text = readScalar (c :: more) := by
  rw [readValue, starts]
  split
  · rename_i found
    exact absurd (List.cons.inj found).1 notBracket
  · rename_i found
    exact absurd (List.cons.inj found).1 notBrace
  · rename_i found
    exact absurd (List.cons.inj found).1 notQuote
  · rfl

theorem readScalar_null (rest : List Char) :
    readScalar ("null".toList ++ rest) = some (.null, rest) := by
  rw [readScalar, dropStart?_eq_some_iff.2 rfl]

theorem readScalar_true (rest : List Char) :
    readScalar ("true".toList ++ rest) = some (.bool true, rest) := by
  have notNull : dropStart? "null".toList ("true".toList ++ rest) = none := rfl
  rw [readScalar, notNull, dropStart?_eq_some_iff.2 rfl]

theorem readScalar_false (rest : List Char) :
    readScalar ("false".toList ++ rest) = some (.bool false, rest) := by
  have notNull : dropStart? "null".toList ("false".toList ++ rest) = none := rfl
  have notTrue : dropStart? "true".toList ("false".toList ++ rest) = none := rfl
  rw [readScalar, notNull, notTrue, dropStart?_eq_some_iff.2 rfl]

/-- A sign or a digit starts none of the three names. -/
theorem readScalar_of_signOrDigit {c : Char}
    (signOrDigit : c = '-' ∨ c.isDigit = true) (more : List Char) :
    readScalar (c :: more) =
      (readNumber (c :: more)).map fun (numeral, rest) =>
        (.number numeral, rest) := by
  have noName : ∀ {first : Char} {name : List Char},
      first.isDigit = false → first ≠ '-' →
        dropStart? (first :: name) (c :: more) = none := by
    intro first name notDigit notSign
    rw [dropStart?, if_neg]
    rintro rfl
    rcases signOrDigit with isSign | isDigit
    · exact notSign isSign
    · rw [notDigit] at isDigit
      cases isDigit
  have notNull : dropStart? "null".toList (c :: more) = none :=
    noName (by decide) (by decide)
  have notTrue : dropStart? "true".toList (c :: more) = none :=
    noName (by decide) (by decide)
  have notFalse : dropStart? "false".toList (c :: more) = none :=
    noName (by decide) (by decide)
  rw [readScalar, notNull, notTrue, notFalse]

/-! ## Elements and members -/

section Steps

variable {fuel : Nat} {text behind later rest : List Char}

theorem readElements_last {element : Json}
    (read : readValue fuel text = some (element, behind))
    (closes : skipSpace behind = ']' :: rest) :
    readElements (fuel + 1) text = some ([element], rest) := by
  simp only [readElements, read, closes]

theorem readElements_more {element : Json} {elements : List Json}
    (read : readValue fuel text = some (element, behind))
    (goesOn : skipSpace behind = ',' :: later)
    (readLater : readElements fuel later = some (elements, rest)) :
    readElements (fuel + 1) text = some (element :: elements, rest) := by
  simp only [readElements, read, goesOn, readLater, Option.map_some]

variable {quoted colon spelt : List Char} {key : Option String} {value : Json}
  (quote : skipSpace text = '"' :: quoted)
  (keyRead : readString quoted = some (key, colon))
  (colonRead : skipSpace colon = ':' :: spelt)
  (valueRead : readValue fuel spelt = some (value, behind))

include quote keyRead colonRead valueRead

theorem readMembers_last (closes : skipSpace behind = '\x7d' :: rest) :
    readMembers (fuel + 1) text = some ([(key, value)], rest) := by
  simp only [readMembers, quote, keyRead, colonRead, valueRead, closes]

theorem readMembers_more {members : List (Option String × Json)}
    (goesOn : skipSpace behind = ',' :: later)
    (readLater : readMembers fuel later = some (members, rest)) :
    readMembers (fuel + 1) text = some ((key, value) :: members, rest) := by
  simp only [readMembers, quote, keyRead, colonRead, valueRead, goesOn,
    readLater, Option.map_some]

end Steps

/-- A text is read as a value, with white space in front and anything behind
that does not continue a number. Each character is worth two units of fuel. -/
def IsReadAs (text : List Char) (value : Json) : Prop :=
  ∀ (fuel : Nat) (source rest : List Char),
    skipSpace source = text ++ rest → EndsNumber rest →
      2 * text.length ≤ fuel → readValue fuel source = some (value, rest)

/-- The spelling of a value is not empty, so there is fuel for a first
step. -/
theorem isReadAs_of_succ {text : List Char} {value : Json}
    (spelling : Spelling text value)
    (reads :
      ∀ (fuel : Nat) (source rest : List Char),
        skipSpace source = text ++ rest → EndsNumber rest →
          2 * text.length ≤ fuel + 1 →
          readValue (fuel + 1) source = some (value, rest)) :
    IsReadAs text value := by
  intro fuel source rest starts ends enough
  have positive := spelling.length_pos
  obtain ⟨left, rfl⟩ : ∃ left, fuel = left + 1 := ⟨fuel - 1, by omega⟩
  exact reads left source rest starts ends enough

/-- A value with white space around it is read in front of a character that is
no part of it, and the white space behind it is left. -/
theorem Slot.readValue_spelling {slot : Slot} (padded : slot.IsPadded)
    (spelling : Spelling slot.text slot.value)
    (readAs : IsReadAs slot.text slot.value) {fuel : Nat} {rest : List Char}
    (ends : EndsNumber rest)
    (enough : 2 * slot.spelling.length ≤ fuel) :
    readValue fuel (slot.spelling ++ rest) =
      some (slot.value, slot.behind ++ rest) := by
  have long : slot.text.length ≤ slot.spelling.length := by
    simp only [Slot.spelling, List.length_append]
    omega
  apply readAs fuel
  · rw [Slot.spelling, List.append_assoc, List.append_assoc,
      skipSpace_append padded.1, spelling.skipSpace_append]
  · exact endsNumber_of_isSpace padded.2 ends
  · omega

theorem readElements_slots {slots : List Slot} (someSlot : slots ≠ [])
    (padded : ∀ slot ∈ slots, slot.IsPadded)
    (spelling : ∀ slot ∈ slots, Spelling slot.text slot.value)
    (readAs : ∀ slot ∈ slots, IsReadAs slot.text slot.value)
    {fuel : Nat}
    (enough :
      2 * ([','].intercalate (slots.map Slot.spelling)).length < fuel)
    (rest : List Char) :
    readElements fuel
        ([','].intercalate (slots.map Slot.spelling) ++ ']' :: rest) =
      some (slots.map Slot.value, rest) := by
  induction slots generalizing fuel with
  | nil => exact absurd rfl someSlot
  | cons slot more inductionHypothesis =>
      obtain ⟨left, rfl⟩ : ∃ left, fuel = left + 1 := ⟨fuel - 1, by omega⟩
      obtain ⟨paddedHere, paddedLater⟩ := List.forall_mem_cons.1 padded
      obtain ⟨spellingHere, spellingLater⟩ := List.forall_mem_cons.1 spelling
      obtain ⟨readHere, readLater⟩ := List.forall_mem_cons.1 readAs
      cases more with
      | nil =>
          rw [List.map_singleton, List.intercalate_singleton] at enough ⊢
          have read :=
            Slot.readValue_spelling paddedHere spellingHere readHere
              (endsNumber_bracket rest) (Nat.le_of_lt_succ enough)
          refine readElements_last read ?_
          rw [skipSpace_append paddedHere.2,
            skipSpace_cons_of_not_isSpace (by decide)]
      | cons next others =>
          rw [List.map_cons, List.map_cons, List.intercalate_cons_cons,
            ← List.map_cons] at enough ⊢
          rw [List.length_append, List.length_append, List.length_singleton]
            at enough
          rw [List.append_assoc, List.append_assoc, List.singleton_append]
          have enoughHere : 2 * slot.spelling.length ≤ left := by omega
          have enoughLater :
              2 * ([','].intercalate
                ((next :: others).map Slot.spelling)).length < left := by
            omega
          have laterRead :=
            inductionHypothesis (List.cons_ne_nil next others) paddedLater
              spellingLater readLater enoughLater
          refine readElements_more
            (Slot.readValue_spelling paddedHere spellingHere readHere
              (endsNumber_comma _) enoughHere) ?_ laterRead
          rw [skipSpace_append paddedHere.2]
          exact skipSpace_cons_of_not_isSpace (by decide) _

/-- The text of a member, from its key on. -/
theorem MemberSlot.exists_read {member : MemberSlot}
    (padded : member.IsPadded)
    (keySpelling : StringSpelling member.text member.key)
    (spelling : Spelling member.slot.text member.slot.value)
    (readAs : IsReadAs member.slot.text member.slot.value) {fuel : Nat}
    {rest : List Char} (ends : EndsNumber rest)
    (enough : 2 * member.spelling.length ≤ fuel) :
    ∃ quoted colon spelt,
      skipSpace (member.spelling ++ rest) = '"' :: quoted ∧
        readString quoted = some (member.key, colon) ∧
        skipSpace colon = ':' :: spelt ∧
        readValue fuel spelt =
          some (member.slot.value, member.slot.behind ++ rest) := by
  obtain ⟨paddedBefore, paddedBehind, paddedSlot⟩ := padded
  have long : member.slot.spelling.length ≤ member.spelling.length := by
    simp only [MemberSlot.spelling, List.length_append, List.length_cons]
    omega
  obtain ⟨quoted, quote, keyRead⟩ :=
    keySpelling.exists_readString
      (member.behind ++ (':' :: (member.slot.spelling ++ rest)))
  refine ⟨quoted, _, member.slot.spelling ++ rest, ?_, keyRead, ?_, ?_⟩
  · have regrouped :
        member.spelling ++ rest =
          member.before ++
            (member.text ++
              (member.behind ++ (':' :: (member.slot.spelling ++ rest)))) := by
      simp only [MemberSlot.spelling, List.append_assoc, List.cons_append]
    rw [regrouped, skipSpace_append paddedBefore, quote,
      skipSpace_cons_of_not_isSpace (by decide)]
  · rw [skipSpace_append paddedBehind,
      skipSpace_cons_of_not_isSpace (by decide)]
  · exact Slot.readValue_spelling paddedSlot spelling readAs ends (by omega)

theorem readMembers_slots {members : List MemberSlot}
    (someMember : members ≠ [])
    (padded : ∀ member ∈ members, member.IsPadded)
    (keySpelling : ∀ member ∈ members, StringSpelling member.text member.key)
    (spelling :
      ∀ member ∈ members, Spelling member.slot.text member.slot.value)
    (readAs : ∀ member ∈ members, IsReadAs member.slot.text member.slot.value)
    {fuel : Nat}
    (enough :
      2 * ([','].intercalate (members.map MemberSlot.spelling)).length <
        fuel)
    (rest : List Char) :
    readMembers fuel
        ([','].intercalate (members.map MemberSlot.spelling) ++
          '\x7d' :: rest) =
      some (members.map MemberSlot.entry, rest) := by
  induction members generalizing fuel with
  | nil => exact absurd rfl someMember
  | cons member more inductionHypothesis =>
      obtain ⟨left, rfl⟩ : ∃ left, fuel = left + 1 := ⟨fuel - 1, by omega⟩
      obtain ⟨paddedHere, paddedLater⟩ := List.forall_mem_cons.1 padded
      obtain ⟨keyHere, keyLater⟩ := List.forall_mem_cons.1 keySpelling
      obtain ⟨spellingHere, spellingLater⟩ := List.forall_mem_cons.1 spelling
      obtain ⟨readHere, readLater⟩ := List.forall_mem_cons.1 readAs
      have whiteBehind := paddedHere.2.2.2
      cases more with
      | nil =>
          rw [List.map_singleton, List.intercalate_singleton] at enough ⊢
          obtain ⟨quoted, colon, spelt, quote, keyRead, colonRead,
            valueRead⟩ :=
              MemberSlot.exists_read paddedHere keyHere spellingHere readHere
                (endsNumber_brace rest) (Nat.le_of_lt_succ enough)
          refine readMembers_last quote keyRead colonRead valueRead ?_
          rw [skipSpace_append whiteBehind,
            skipSpace_cons_of_not_isSpace (by decide)]
      | cons next others =>
          rw [List.map_cons, List.map_cons, List.intercalate_cons_cons,
            ← List.map_cons] at enough ⊢
          rw [List.length_append, List.length_append, List.length_singleton]
            at enough
          rw [List.append_assoc, List.append_assoc, List.singleton_append]
          have enoughHere : 2 * member.spelling.length ≤ left := by omega
          obtain ⟨quoted, colon, spelt, quote, keyRead, colonRead,
            valueRead⟩ :=
              MemberSlot.exists_read paddedHere keyHere spellingHere readHere
                (endsNumber_comma _) enoughHere
          have enoughLater :
              2 * ([','].intercalate
                ((next :: others).map MemberSlot.spelling)).length < left := by
            omega
          have laterRead :=
            inductionHypothesis (List.cons_ne_nil next others) paddedLater
              keyLater spellingLater readLater enoughLater
          refine readMembers_more quote keyRead colonRead valueRead ?_
            laterRead
          rw [skipSpace_append whiteBehind]
          exact skipSpace_cons_of_not_isSpace (by decide) _

/-! ## Values -/

theorem readValue_skipSpace (fuel : Nat) (text : List Char) :
    readValue fuel (skipSpace text) = readValue fuel text := by
  have skipped := skipSpace_skipSpace text
  cases fuel with
  | zero => rfl
  | succ left => rw [readValue, readValue, skipped]

theorem readElements_skipSpace (fuel : Nat) (text : List Char) :
    readElements fuel (skipSpace text) = readElements fuel text := by
  cases fuel with
  | zero => rfl
  | succ left => rw [readElements, readElements, readValue_skipSpace]

theorem readMembers_skipSpace (fuel : Nat) (text : List Char) :
    readMembers fuel (skipSpace text) = readMembers fuel text := by
  have skipped := skipSpace_skipSpace text
  cases fuel with
  | zero => rfl
  | succ left => rw [readMembers, readMembers, skipped]

theorem readValue_array {fuel : Nat} {text inner more rest : List Char}
    {c : Char} {elements : List Json} (bracket : skipSpace text = '[' :: inner)
    (starts : skipSpace inner = c :: more) (notClosed : c ≠ ']')
    (read : readElements fuel inner = some (elements, rest)) :
    readValue (fuel + 1) text = some (.array elements, rest) := by
  rw [← readElements_skipSpace, starts] at read
  simp only [readValue, bracket, starts]
  split
  · rename_i found
    exact absurd (List.cons.inj found).1 notClosed
  · rw [read, Option.map_some]

theorem readValue_object {fuel : Nat} {text inner more rest : List Char}
    {c : Char} {members : List (Option String × Json)}
    (brace : skipSpace text = '\x7b' :: inner)
    (starts : skipSpace inner = c :: more) (notClosed : c ≠ '\x7d')
    (read : readMembers fuel inner = some (members, rest)) :
    readValue (fuel + 1) text = some (.object members, rest) := by
  rw [← readMembers_skipSpace, starts] at read
  simp only [readValue, brace, starts]
  split
  · rename_i found
    exact absurd (List.cons.inj found).1 notClosed
  · rw [read, Option.map_some]

theorem exists_intercalate_append (first : List Char)
    (more : List (List Char)) (rest : List Char) :
    ∃ behind, [','].intercalate (first :: more) ++ rest = first ++ behind := by
  cases more with
  | nil => exact ⟨rest, by rw [List.intercalate_singleton]⟩
  | cons next others =>
      rw [List.intercalate_cons_cons, List.append_assoc, List.append_assoc]
      exact ⟨_, rfl⟩

theorem isReadAs_scalar {c : Char} {text more : List Char} {value : Json}
    (spelling : Spelling text value) (first : text = c :: more)
    (noBracket : c ≠ '[' ∧ c ≠ '\x7b' ∧ c ≠ '"')
    (read :
      ∀ rest, EndsNumber rest →
        readScalar (text ++ rest) = some (value, rest)) :
    IsReadAs text value := by
  subst first
  apply isReadAs_of_succ spelling
  intro fuel source rest starts ends _
  obtain ⟨notBracket, notBrace, notQuote⟩ := noBracket
  rw [readValue_scalar starts notBracket notBrace notQuote]
  exact read rest ends

theorem isReadAs_number {text : List Char} {numeral : Number}
    (spelling : NumberSpelling text numeral) :
    IsReadAs text (.number numeral) := by
  obtain ⟨c, more, first, signOrDigit⟩ := spelling.exists_append_eq_cons []
  rw [List.append_nil] at first
  apply isReadAs_scalar (Spelling.number spelling) first
  · rcases signOrDigit with rfl | isDigit
    · decide
    · exact ⟨ne_of_isDigit isDigit (by decide),
        ne_of_isDigit isDigit (by decide), ne_of_isDigit isDigit (by decide)⟩
  · intro rest ends
    have read := spelling.readNumber_append ends
    rw [first, List.cons_append] at read ⊢
    rw [readScalar_of_signOrDigit signOrDigit, read]
    rfl

theorem isReadAs_string {text : List Char} {content : Option String}
    (spelling : StringSpelling text content) :
    IsReadAs text (.string content) := by
  apply isReadAs_of_succ (Spelling.string spelling)
  intro fuel source rest starts _ _
  obtain ⟨quoted, startsHere, read⟩ := spelling.exists_readString rest
  have quote : skipSpace source = '"' :: quoted := starts.trans startsHere
  simp only [readValue, quote, read, Option.map_some]

theorem isReadAs_emptyArray {space : List Char} (white : IsWhite space) :
    IsReadAs ('[' :: (space ++ [']'])) (.array []) := by
  apply isReadAs_of_succ (Spelling.emptyArray white)
  intro fuel source rest starts _ _
  rw [List.cons_append, List.append_assoc] at starts
  have closes : skipSpace (space ++ ([']'] ++ rest)) = ']' :: rest := by
    rw [skipSpace_append white]
    exact skipSpace_cons_of_not_isSpace (by decide) rest
  simp only [readValue, starts, closes]

theorem isReadAs_emptyObject {space : List Char} (white : IsWhite space) :
    IsReadAs ('\x7b' :: (space ++ ['\x7d'])) (.object []) := by
  apply isReadAs_of_succ (Spelling.emptyObject white)
  intro fuel source rest starts _ _
  rw [List.cons_append, List.append_assoc] at starts
  have closes : skipSpace (space ++ (['\x7d'] ++ rest)) = '\x7d' :: rest := by
    rw [skipSpace_append white]
    exact skipSpace_cons_of_not_isSpace (by decide) rest
  simp only [readValue, starts, closes]

theorem isReadAs_array {slots : List Slot} (someSlot : slots ≠ [])
    (padded : ∀ slot ∈ slots, slot.IsPadded)
    (spelling : ∀ slot ∈ slots, Spelling slot.text slot.value)
    (readAs : ∀ slot ∈ slots, IsReadAs slot.text slot.value) :
    IsReadAs ('[' :: ([','].intercalate (slots.map Slot.spelling) ++ [']']))
      (.array (slots.map Slot.value)) := by
  apply isReadAs_of_succ (Spelling.array someSlot padded spelling)
  intro fuel source rest starts _ enough
  rw [List.cons_append, List.append_assoc, List.singleton_append] at starts
  rw [List.length_cons, List.length_append, List.length_singleton] at enough
  have enoughInside :
      2 * ([','].intercalate (slots.map Slot.spelling)).length < fuel := by
    omega
  have read := readElements_slots someSlot padded spelling readAs enoughInside
  obtain ⟨first, more, rfl⟩ := List.exists_cons_of_ne_nil someSlot
  obtain ⟨behind, regrouped⟩ :=
    exists_intercalate_append first.spelling (more.map Slot.spelling)
      (']' :: rest)
  have spellingFirst := spelling first List.mem_cons_self
  obtain ⟨c, inside, startsFirst, startsValue⟩ :=
    spellingFirst.exists_append_eq_cons (first.behind ++ behind)
  have opening :
      skipSpace
          ([','].intercalate ((first :: more).map Slot.spelling) ++
            ']' :: rest) =
        c :: inside := by
    rw [List.map_cons, regrouped, Slot.spelling, List.append_assoc,
      List.append_assoc, skipSpace_append (padded first List.mem_cons_self).1,
      spellingFirst.skipSpace_append, startsFirst]
  exact readValue_array starts opening startsValue.2.1 (read rest)

theorem isReadAs_object {members : List MemberSlot}
    (someMember : members ≠ [])
    (padded : ∀ member ∈ members, member.IsPadded)
    (keySpelling : ∀ member ∈ members, StringSpelling member.text member.key)
    (spelling :
      ∀ member ∈ members, Spelling member.slot.text member.slot.value)
    (readAs :
      ∀ member ∈ members, IsReadAs member.slot.text member.slot.value) :
    IsReadAs
      ('\x7b' ::
        ([','].intercalate (members.map MemberSlot.spelling) ++ ['\x7d']))
      (.object (members.map MemberSlot.entry)) := by
  apply isReadAs_of_succ
    (Spelling.object someMember padded keySpelling spelling)
  intro fuel source rest starts _ enough
  rw [List.cons_append, List.append_assoc, List.singleton_append] at starts
  rw [List.length_cons, List.length_append, List.length_singleton] at enough
  have enoughInside :
      2 * ([','].intercalate (members.map MemberSlot.spelling)).length <
        fuel := by
    omega
  have read :=
    readMembers_slots someMember padded keySpelling spelling readAs
      enoughInside
  obtain ⟨first, more, rfl⟩ := List.exists_cons_of_ne_nil someMember
  obtain ⟨behind, regrouped⟩ :=
    exists_intercalate_append first.spelling (more.map MemberSlot.spelling)
      ('\x7d' :: rest)
  have keyFirst := keySpelling first List.mem_cons_self
  obtain ⟨inside, startsFirst⟩ :=
    keyFirst.exists_append_eq_cons
      (first.behind ++ (':' :: (first.slot.spelling ++ behind)))
  have spelt :
      first.spelling ++ behind = first.before ++ '"' :: inside := by
    simp only [MemberSlot.spelling, List.append_assoc, List.cons_append]
    rw [startsFirst]
  have opening :
      skipSpace
          ([','].intercalate ((first :: more).map MemberSlot.spelling) ++
            '\x7d' :: rest) =
        '"' :: inside := by
    rw [List.map_cons, regrouped, spelt,
      skipSpace_append (padded first List.mem_cons_self).1]
    exact skipSpace_cons_of_not_isSpace (by decide) inside
  exact readValue_object starts opening (by decide) (read rest)

/-! ## Texts -/

theorem Spelling.isReadAs {text : List Char} {value : Json}
    (spelling : Spelling text value) : IsReadAs text value := by
  induction spelling with
  | null =>
      apply isReadAs_scalar Spelling.null rfl (by decide)
      intro rest _
      exact readScalar_null rest
  | true =>
      apply isReadAs_scalar Spelling.true rfl (by decide)
      intro rest _
      exact readScalar_true rest
  | false =>
      apply isReadAs_scalar Spelling.false rfl (by decide)
      intro rest _
      exact readScalar_false rest
  | number spelling => exact isReadAs_number spelling
  | string spelling => exact isReadAs_string spelling
  | emptyArray white => exact isReadAs_emptyArray white
  | array someSlot padded spelling inductionHypothesis =>
      exact isReadAs_array someSlot padded spelling inductionHypothesis
  | emptyObject white => exact isReadAs_emptyObject white
  | object someMember padded keySpelling spelling inductionHypothesis =>
      exact isReadAs_object someMember padded keySpelling spelling
        inductionHypothesis

/-- A text that spells a value is parsed as that value. -/
theorem Document.parse?_eq {text : List Char} {value : Json}
    (document : Document text value) : parse? text = some value := by
  cases document with
  | @padded slot padded spelling =>
      have read :=
        Slot.readValue_spelling padded spelling spelling.isReadAs
          endsNumber_nil (Nat.le_add_right (2 * slot.spelling.length) 2)
      rw [List.append_nil, List.append_nil] at read
      rw [parse?, read]
      simp [skipSpace_of_isWhite padded.2]

end Preflight.Json
