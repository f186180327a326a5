import Preflight.Proofs.Json.Reading

/-!
# Reading written JSON

What is written for a value, in either layout and at any level, is one of its
spellings. So a written value is read back as it was, also with white space
behind it.
-/

namespace Preflight.Json

open Text

/-- The values that can be written: their numbers can. -/
inductive Writable : Json → Prop
  | null : Writable .null
  | bool (value : Bool) : Writable (.bool value)
  | number {numeral : Number} :
      numeral.IsSpelling → Writable (.number numeral)
  | string (text : Option String) : Writable (.string text)
  | array {elements : List Json} :
      (∀ element ∈ elements, Writable element) → Writable (.array elements)
  | object {members : List (Option String × Json)} :
      (∀ member ∈ members, Writable member.2) → Writable (.object members)

theorem isWhite_lineStart (layout : Layout) (level : Nat) :
    IsWhite (layout.lineStart level) := by
  intro c member
  unfold Layout.lineStart at member
  split at member
  · rcases List.mem_cons.1 member with rfl | isIndent
    · decide
    · rw [List.eq_of_mem_replicate isIndent]
      decide
  · cases member

theorem isWhite_nil : IsWhite [] :=
  List.forall_mem_nil _

/-- The white space behind a colon. -/
def Layout.gap (layout : Layout) : List Char :=
  if layout.multiline then [' '] else []

theorem colon_eq (layout : Layout) : layout.colon = ':' :: layout.gap := by
  unfold Layout.colon Layout.gap
  split <;> rfl

theorem isWhite_gap (layout : Layout) : IsWhite layout.gap := by
  unfold Layout.gap
  split
  · simp [IsWhite, isSpace]
  · exact isWhite_nil

section Slots

variable (layout : Layout) (level : Nat)

/-! ## Elements -/

/-- The slots of elements, the last of them in front of white space. -/
def elementSlots (closing : List Char) : List Json → List Slot
  | [] => []
  | [element] =>
      [⟨layout.lineStart level, write layout level element, element, closing⟩]
  | element :: more =>
      ⟨layout.lineStart level, write layout level element, element, []⟩ ::
        elementSlots closing more

variable {closing : List Char}

theorem map_value_elementSlots (elements : List Json) :
    (elementSlots layout level closing elements).map Slot.value =
      elements := by
  induction elements with
  | nil => rfl
  | cons element more inductionHypothesis =>
      cases more with
      | nil => rfl
      | cons next others =>
          rw [elementSlots, List.map_cons, inductionHypothesis]
          simp

theorem forall_elementSlots (white : IsWhite closing) {elements : List Json}
    (spelling :
      ∀ element ∈ elements, Spelling (write layout level element) element) :
    ∀ slot ∈ elementSlots layout level closing elements,
      slot.IsPadded ∧ Spelling slot.text slot.value := by
  have lineWhite := isWhite_lineStart layout level
  induction elements with
  | nil => exact List.forall_mem_nil _
  | cons element more inductionHypothesis =>
      obtain ⟨spellingHere, spellingLater⟩ := List.forall_mem_cons.1 spelling
      cases more with
      | nil =>
          intro slot member
          rw [List.mem_singleton.1 member]
          exact ⟨⟨lineWhite, white⟩, spellingHere⟩
      | cons next others =>
          exact List.forall_mem_cons.2
            ⟨⟨⟨lineWhite, isWhite_nil⟩, spellingHere⟩,
              inductionHypothesis spellingLater⟩

theorem intercalate_elementSlots (element : Json) (more : List Json) :
    [','].intercalate
        ((elementSlots layout level closing (element :: more)).map
          Slot.spelling) =
      layout.lineStart level ++
        (write layout level element ++
          (writeElements layout level more ++ closing)) := by
  induction more generalizing element with
  | nil => simp [elementSlots, Slot.spelling, writeElements]
  | cons next others inductionHypothesis =>
      have spelt := inductionHypothesis next
      have slots :
          ∃ first rest,
            elementSlots layout level closing (next :: others) =
              first :: rest := by
        cases others <;> exact ⟨_, _, rfl⟩
      obtain ⟨first, rest, found⟩ := slots
      rw [elementSlots, found, List.map_cons, List.map_cons,
        List.intercalate_cons_cons, ← List.map_cons, ← found, spelt]
      · simp [Slot.spelling, writeElements]
      · simp

/-! ## Members -/

/-- The slots of members, the last of them in front of white space. -/
def memberSlots (closing : List Char) :
    List (Option String × Json) → List MemberSlot
  | [] => []
  | [(key, value)] =>
      [⟨layout.lineStart level, writeString key, key, [],
        ⟨layout.gap, write layout level value, value, closing⟩⟩]
  | (key, value) :: more =>
      ⟨layout.lineStart level, writeString key, key, [],
          ⟨layout.gap, write layout level value, value, []⟩⟩ ::
        memberSlots closing more

theorem map_entry_memberSlots (members : List (Option String × Json)) :
    (memberSlots layout level closing members).map MemberSlot.entry =
      members := by
  induction members with
  | nil => rfl
  | cons member more inductionHypothesis =>
      cases more with
      | nil => rfl
      | cons next others =>
          rw [memberSlots, List.map_cons, inductionHypothesis]
          · rfl
          · simp

theorem forall_memberSlots (white : IsWhite closing)
    {members : List (Option String × Json)}
    (spelling :
      ∀ member ∈ members, Spelling (write layout level member.2) member.2) :
    ∀ member ∈ memberSlots layout level closing members,
      member.IsPadded ∧ StringSpelling member.text member.key ∧
        Spelling member.slot.text member.slot.value := by
  have lineWhite := isWhite_lineStart layout level
  have gapWhite := isWhite_gap layout
  induction members with
  | nil => exact List.forall_mem_nil _
  | cons member more inductionHypothesis =>
      obtain ⟨spellingHere, spellingLater⟩ := List.forall_mem_cons.1 spelling
      obtain ⟨key, value⟩ := member
      have keySpelling := stringSpelling_writeString key
      cases more with
      | nil =>
          intro member listed
          rw [List.mem_singleton.1 listed]
          exact ⟨⟨lineWhite, isWhite_nil, gapWhite, white⟩, keySpelling,
            spellingHere⟩
      | cons next others =>
          exact List.forall_mem_cons.2
            ⟨⟨⟨lineWhite, isWhite_nil, gapWhite, isWhite_nil⟩, keySpelling,
              spellingHere⟩, inductionHypothesis spellingLater⟩

theorem intercalate_memberSlots (key : Option String) (value : Json)
    (more : List (Option String × Json)) :
    [','].intercalate
        ((memberSlots layout level closing ((key, value) :: more)).map
          MemberSlot.spelling) =
      layout.lineStart level ++
        (writeString key ++
          (layout.colon ++
            (write layout level value ++
              (writeMembers layout level more ++ closing)))) := by
  induction more generalizing key value with
  | nil =>
      simp [memberSlots, MemberSlot.spelling, Slot.spelling, writeMembers,
        colon_eq]
  | cons next others inductionHypothesis =>
      obtain ⟨nextKey, nextValue⟩ := next
      have spelt := inductionHypothesis nextKey nextValue
      have slots :
          ∃ first rest,
            memberSlots layout level closing ((nextKey, nextValue) :: others) =
              first :: rest := by
        cases others <;> exact ⟨_, _, rfl⟩
      obtain ⟨first, rest, found⟩ := slots
      rw [memberSlots, found, List.map_cons, List.map_cons,
        List.intercalate_cons_cons, ← List.map_cons, ← found, spelt]
      · simp [MemberSlot.spelling, Slot.spelling, writeMembers, colon_eq]
      · simp

end Slots

/-! ## Values -/

theorem spelling_write_array {layout : Layout} {elements : List Json}
    (spelling :
      ∀ element ∈ elements, ∀ level,
        Spelling (write layout level element) element) (level : Nat) :
    Spelling (write layout level (.array elements)) (.array elements) := by
  cases elements with
  | nil => exact Spelling.emptyArray isWhite_nil
  | cons element more =>
      have slotSpelling :=
        forall_elementSlots layout (level + 1) (isWhite_lineStart layout level)
          fun one member => spelling one member (level + 1)
      have someSlot :
          elementSlots layout (level + 1) (layout.lineStart level)
              (element :: more) ≠ [] := by
        cases more <;> exact List.cons_ne_nil _ _
      have spelt :=
        Spelling.array someSlot (fun slot member => (slotSpelling slot member).1)
          fun slot member => (slotSpelling slot member).2
      rw [map_value_elementSlots, intercalate_elementSlots] at spelt
      rw [write]
      simpa only [List.append_assoc, List.cons_append] using spelt

theorem spelling_write_object {layout : Layout}
    {members : List (Option String × Json)}
    (spelling :
      ∀ member ∈ members, ∀ level,
        Spelling (write layout level member.2) member.2) (level : Nat) :
    Spelling (write layout level (.object members)) (.object members) := by
  cases members with
  | nil => exact Spelling.emptyObject isWhite_nil
  | cons member more =>
      obtain ⟨key, value⟩ := member
      have slotSpelling :=
        forall_memberSlots layout (level + 1) (isWhite_lineStart layout level)
          fun one listed => spelling one listed (level + 1)
      have someMember :
          memberSlots layout (level + 1) (layout.lineStart level)
              ((key, value) :: more) ≠ [] := by
        cases more <;> exact List.cons_ne_nil _ _
      have spelt :=
        Spelling.object someMember
          (fun slot listed => (slotSpelling slot listed).1)
          (fun slot listed => (slotSpelling slot listed).2.1)
          fun slot listed => (slotSpelling slot listed).2.2
      rw [map_entry_memberSlots, intercalate_memberSlots] at spelt
      rw [write]
      simpa only [List.append_assoc, List.cons_append] using spelt

/-- What is written for a value spells it, at any level. -/
theorem Writable.spelling_write {value : Json} (writable : Writable value)
    (layout : Layout) (level : Nat) :
    Spelling (write layout level value) value := by
  induction writable generalizing level with
  | null => exact Spelling.null
  | bool value =>
      cases value with
      | false => exact Spelling.false
      | true => exact Spelling.true
  | number areDigits =>
      exact Spelling.number (numberSpelling_writeNumber areDigits)
  | string text => exact Spelling.string (stringSpelling_writeString text)
  | array _ inductionHypothesis =>
      exact spelling_write_array inductionHypothesis level
  | object _ inductionHypothesis =>
      exact spelling_write_object inductionHypothesis level

theorem Writable.document_write {value : Json} (writable : Writable value)
    (layout : Layout) {space : List Char} (white : IsWhite space) :
    Document (write layout 0 value ++ space) value :=
  @Document.padded ⟨[], write layout 0 value, value, space⟩
    ⟨isWhite_nil, white⟩ (writable.spelling_write layout 0)

theorem Writable.document_render {value : Json} (writable : Writable value)
    (layout : Layout) : Document (render layout value).toList value := by
  have document := writable.document_write layout isWhite_nil
  rw [List.append_nil] at document
  rwa [render, String.toList_ofList]

/-- A written value is read back, in either layout and with white space behind
it. -/
theorem parse?_write {value : Json} (writable : Writable value)
    (layout : Layout) {space : List Char}
    (blank : ∀ c ∈ space, isSpace c = true) :
    parse? (write layout 0 value ++ space) = some value :=
  (writable.document_write layout blank).parse?_eq

end Preflight.Json
