import Preflight.Text.Word

/-!
# The whole words of a text

A whole word is a run of word characters that no word character continues on
either side. Reading a text from left to right lists its whole words, each
once and at its offset.
-/

namespace Preflight.Text

theorem isWordChar_of_isIdentifier {name : List Char}
    (identifier : isIdentifier name = true) :
    name ≠ [] ∧ ∀ c ∈ name, isWordChar c = true := by
  cases name with
  | nil => cases identifier
  | cons first more =>
      rw [isIdentifier, Bool.and_eq_true] at identifier
      obtain ⟨starts, goesOn⟩ := identifier
      have firstInWord : isWordChar first = true := by
        rw [Bool.or_eq_true] at starts
        rw [isWordChar, Char.isAlphanum, Bool.or_eq_true, Bool.or_eq_true]
        rcases starts with letter | underscore
        · exact Or.inl (Or.inl letter)
        · exact Or.inr underscore
      refine ⟨List.cons_ne_nil first more, ?_⟩
      exact List.forall_mem_cons.2
        ⟨firstInWord, List.all_eq_true.1 goesOn⟩

/-! ## What stands before a place -/

/-- Whether a word character stands at the end of what was read, if
`afterWord` tells so of what stands before it. -/
def endsInWord (afterWord : Bool) (before : List Char) : Bool :=
  before.getLast?.elim afterWord isWordChar

theorem endsInWord_cons (afterWord : Bool) (c : Char)
    (before : List Char) :
    endsInWord afterWord (c :: before) =
      endsInWord (isWordChar c) before := by
  cases before with
  | nil => rfl
  | cons first more => simp [endsInWord, List.getLast?_cons]

theorem endsInWord_false_iff (before : List Char) :
    endsInWord false before = false ↔
      ∀ c ∈ before.getLast?, isWordChar c = false := by
  unfold endsInWord
  cases before.getLast? <;> simp

/-! ## The word at the start of a text -/

theorem takeWhile_eq_of_boundary {word behind : List Char}
    (inside : ∀ c ∈ word, isWordChar c = true)
    (boundary : ∀ c ∈ behind.head?, isWordChar c = false) :
    (word ++ behind).takeWhile isWordChar = word := by
  have stops : behind.takeWhile isWordChar = [] := by
    cases behind with
    | nil => rfl
    | cons c rest =>
        have outside := boundary c rfl
        rw [List.takeWhile_cons_of_neg (by simp [outside])]
  rw [List.takeWhile_append_of_pos inside, stops, List.append_nil]

theorem boundary_behind_takeWhile (text : List Char) :
    ∀ c ∈ (text.dropWhile isWordChar).head?, isWordChar c = false := by
  intro c stands
  have notWord := List.head?_dropWhile_not isWordChar text
  rw [Option.mem_def.1 stands] at notWord
  simpa using notWord

/-- A text is cut into word characters and a rest that does not continue them
in one way only. -/
theorem cut_at_boundary_iff {text word : List Char} :
    (∃ behind,
        text = word ++ behind ∧ (∀ c ∈ word, isWordChar c = true) ∧
          ∀ c ∈ behind.head?, isWordChar c = false) ↔
      word = text.takeWhile isWordChar := by
  constructor
  · intro cut
    obtain ⟨behind, rfl, inside, boundary⟩ := cut
    exact (takeWhile_eq_of_boundary inside boundary).symm
  · intro taken
    subst taken
    refine ⟨text.dropWhile isWordChar, ?_, ?_,
      boundary_behind_takeWhile text⟩
    · exact List.takeWhile_append_dropWhile.symm
    · exact List.all_eq_true.1 List.all_takeWhile

/-- A text starts with a whole word exactly when its first character is a word
character. -/
theorem cut_word_at_boundary_iff {c : Char} {rest word : List Char} :
    (word ≠ [] ∧
        ∃ behind,
          c :: rest = word ++ behind ∧ (∀ c ∈ word, isWordChar c = true) ∧
            ∀ c ∈ behind.head?, isWordChar c = false) ↔
      isWordChar c = true ∧ word = c :: rest.takeWhile isWordChar := by
  rw [cut_at_boundary_iff]
  cases isWord : isWordChar c with
  | false => simp [isWord]
  | true =>
      rw [List.takeWhile_cons_of_pos isWord]
      constructor
      · intro taken
        exact ⟨rfl, taken.2⟩
      · intro taken
        rw [taken.2]
        exact ⟨List.cons_ne_nil c _, rfl⟩

theorem isWordChar_of_mem_take {text : List Char} :
    ∀ c ∈ text.take (text.takeWhile isWordChar).length,
      isWordChar c = true := by
  rw [← List.prefix_iff_eq_take.1 (List.takeWhile_prefix isWordChar)]
  exact List.all_eq_true.1 List.all_takeWhile

/-! ## Listing the words -/

/-- A whole word stands at an offset when the text can be cut there into the
word, a run of word characters, and two sides that do not continue it. -/
def IsWholeWordAt (text : List Char) (offset : Nat) (word : List Char) :
    Prop :=
  ∃ before behind,
    text = before ++ word ++ behind ∧ offset = before.length ∧
      (∀ c ∈ before.getLast?, isWordChar c = false) ∧
      word ≠ [] ∧ (∀ c ∈ word, isWordChar c = true) ∧
      ∀ c ∈ behind.head?, isWordChar c = false

/-- The whole words of the rest of a text, whose first character has the given
offset. `afterWord` says whether the character before it is a word
character. -/
def wholeWordsFrom :
    (afterWord : Bool) → (offset : Nat) → List Char →
      List (Nat × List Char)
  | _, _, [] => []
  | afterWord, offset, c :: rest =>
      if !afterWord && isWordChar c then
        (offset, c :: rest.takeWhile isWordChar) ::
          wholeWordsFrom true (offset + 1) rest
      else wholeWordsFrom (isWordChar c) (offset + 1) rest

/-- The whole words of a text with their offsets. -/
def wholeWords (text : List Char) : List (Nat × List Char) :=
  wholeWordsFrom false 0 text

theorem wholeWordsFrom_start {c : Char} (isWord : isWordChar c = true)
    (offset : Nat) (rest : List Char) :
    wholeWordsFrom false offset (c :: rest) =
      (offset, c :: rest.takeWhile isWordChar) ::
        wholeWordsFrom true (offset + 1) rest := by
  simp [wholeWordsFrom, isWord]

theorem wholeWordsFrom_inside {c : Char} (isWord : isWordChar c = true)
    (offset : Nat) (rest : List Char) :
    wholeWordsFrom true offset (c :: rest) =
      wholeWordsFrom true (offset + 1) rest := by
  simp [wholeWordsFrom, isWord]

theorem wholeWordsFrom_outside {c : Char} (isOther : isWordChar c = false)
    (afterWord : Bool) (offset : Nat) (rest : List Char) :
    wholeWordsFrom afterWord offset (c :: rest) =
      wholeWordsFrom false (offset + 1) rest := by
  simp [wholeWordsFrom, isOther]

/-- A word of the rest of a text starts with its first character or is a word
of what follows that. -/
theorem mem_wholeWordsFrom_cons_iff {afterWord : Bool} {offset found : Nat}
    {c : Char} {rest word : List Char} :
    (found, word) ∈ wholeWordsFrom afterWord offset (c :: rest) ↔
      (afterWord = false ∧ isWordChar c = true ∧ found = offset ∧
          word = c :: rest.takeWhile isWordChar) ∨
        (found, word) ∈ wholeWordsFrom (isWordChar c) (offset + 1) rest := by
  cases isWord : isWordChar c with
  | false => simp [wholeWordsFrom_outside isWord]
  | true =>
      cases afterWord with
      | true => simp [wholeWordsFrom_inside isWord]
      | false => simp [wholeWordsFrom_start isWord]

/-- The words that are listed are those at which the text can be cut. -/
theorem mem_wholeWordsFrom_iff {afterWord : Bool} {offset found : Nat}
    {text word : List Char} :
    (found, word) ∈ wholeWordsFrom afterWord offset text ↔
      ∃ before behind,
        text = before ++ word ++ behind ∧
          found = offset + before.length ∧
          endsInWord afterWord before = false ∧
          word ≠ [] ∧ (∀ c ∈ word, isWordChar c = true) ∧
          ∀ c ∈ behind.head?, isWordChar c = false := by
  induction text generalizing afterWord offset with
  | nil => simp +contextual [wholeWordsFrom]
  | cons c rest inductionHypothesis =>
      rw [mem_wholeWordsFrom_cons_iff, inductionHypothesis]
      constructor
      · intro listed
        rcases listed with ⟨starts, isWord, placed, isStart⟩ |
          ⟨before, behind, split, placed, starts, whole⟩
        · obtain ⟨nonempty, behind, split, inside, boundary⟩ :=
            cut_word_at_boundary_iff.2 ⟨isWord, isStart⟩
          exact ⟨[], behind, split, placed, starts, nonempty, inside,
            boundary⟩
        · refine ⟨c :: before, behind, ?_, ?_, ?_, whole⟩
          · rw [split]
            rfl
          · rw [placed, List.length_cons]
            omega
          · rw [endsInWord_cons, starts]
      · intro cut
        obtain ⟨before, behind, split, placed, starts, nonempty, inside,
          boundary⟩ := cut
        -- Either the cut is in front of the first character or behind it.
        cases before with
        | nil =>
            obtain ⟨isWord, isStart⟩ :=
              cut_word_at_boundary_iff.1
                ⟨nonempty, behind, split, inside, boundary⟩
            exact Or.inl ⟨starts, isWord, placed, isStart⟩
        | cons first more =>
            obtain ⟨rfl, splitRest⟩ := List.cons.inj split
            rw [endsInWord_cons] at starts
            rw [List.length_cons] at placed
            exact Or.inr ⟨more, behind, splitRest, by omega, starts,
              nonempty, inside, boundary⟩

theorem pairwise_offset_wholeWordsFrom (afterWord : Bool) (offset : Nat)
    (text : List Char) :
    (wholeWordsFrom afterWord offset text).Pairwise
      fun first second => first.1 < second.1 := by
  induction text generalizing afterWord offset with
  | nil => exact List.Pairwise.nil
  | cons c rest inductionHypothesis =>
      unfold wholeWordsFrom
      split
      · refine List.pairwise_cons.2 ⟨?_, inductionHypothesis true _⟩
        intro found member
        obtain ⟨before, _, _, placed, _⟩ := mem_wholeWordsFrom_iff.1 member
        have later : offset < found.1 := by omega
        exact later
      · exact inductionHypothesis (isWordChar c) _

theorem mem_wholeWords_iff {text word : List Char} {offset : Nat} :
    (offset, word) ∈ wholeWords text ↔ IsWholeWordAt text offset word := by
  simp only [wholeWords, mem_wholeWordsFrom_iff, endsInWord_false_iff,
    Nat.zero_add, IsWholeWordAt]

/-! ## Words of joined texts -/

theorem wholeWordsFrom_add (afterWord : Bool) (offset more : Nat)
    (text : List Char) :
    wholeWordsFrom afterWord (offset + more) text =
      (wholeWordsFrom afterWord offset text).map fun found =>
        (found.1 + more, found.2) := by
  induction text generalizing afterWord offset with
  | nil => rfl
  | cons c rest inductionHypothesis =>
      have sameOffset : offset + more + 1 = offset + 1 + more := by omega
      unfold wholeWordsFrom
      rw [sameOffset, inductionHypothesis, inductionHypothesis]
      split <;> rfl

/-- A character that is no part of a word separates the words before it from
the words behind it. -/
theorem wholeWordsFrom_append_cons {c : Char} (outside : isWordChar c = false)
    (afterWord : Bool) (offset : Nat) (first second : List Char) :
    wholeWordsFrom afterWord offset (first ++ c :: second) =
      wholeWordsFrom afterWord offset first ++
        wholeWordsFrom false (offset + first.length + 1) second := by
  induction first generalizing afterWord offset with
  | nil => exact wholeWordsFrom_outside outside afterWord offset second
  | cons d rest inductionHypothesis =>
      have sameWord :
          (rest ++ c :: second).takeWhile isWordChar =
            rest.takeWhile isWordChar := by
        rw [List.takeWhile_append, List.takeWhile_cons_of_neg (by simp [outside]),
          List.append_nil]
        split
        · rename_i all
          exact ((List.takeWhile_prefix _).eq_of_length all).symm
        · rfl
      have sameOffset :
          offset + (d :: rest).length + 1 = offset + 1 + rest.length + 1 := by
        simp only [List.length_cons]
        omega
      rw [List.cons_append, wholeWordsFrom, wholeWordsFrom, sameWord,
        inductionHypothesis, inductionHypothesis, sameOffset]
      split <;> rfl

example :
    wholeWords "as aé9".toList =
      [(0, ['a', 's']), (3, ['a']), (5, ['9'])] := by
  decide

end Preflight.Text
