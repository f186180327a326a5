import Preflight.Keyword
import Preflight.Proofs.Text.Word

/-!
# Keywords are whole words

The search for keywords tries every place of a text, and at each place one
word of the vocabulary after the other. A keyword may be the beginning of
another, and the boundary behind it decides which of them stands there. So the
keywords counted are the whole words of the text that the vocabulary holds:
none is cut out of a longer word, and none is passed over.
-/

namespace Preflight

open Text

namespace Keyword

/-- The texts that can be keywords: word characters, at least one. -/
def IsSpelling (word : List Char) : Prop :=
  word ≠ [] ∧ ∀ c ∈ word, isWordChar c = true

section Search

variable {words : List (List Char)}

theorem isBoundary_true_iff {text : List Char} :
    isBoundary true text = true ↔
      ∀ c ∈ text.head?, isWordChar c = false := by
  cases text <;> simp [isBoundary]

/-- A keyword stands at the start of a text when the whole word there is that
keyword. -/
theorem startsWith_iff {word text : List Char} (spelling : IsSpelling word) :
    startsWith word text = true ↔ word = text.takeWhile isWordChar := by
  obtain ⟨nonempty, inside⟩ := spelling
  -- Since a keyword ends in a word character, the boundary behind it can only
  -- be the end of the whole word.
  have endsInside : word.getLast?.any isWordChar = true := by
    rw [List.getLast?_eq_some_getLast nonempty]
    exact inside _ (List.getLast_mem nonempty)
  rw [← cut_at_boundary_iff, startsWith, endsInside]
  constructor
  · intro starts
    cases dropped : dropStart? word text with
    | none => simp [dropped] at starts
    | some behind =>
        simp only [dropped] at starts
        exact ⟨behind, dropStart?_eq_some_iff.1 dropped, inside,
          isBoundary_true_iff.1 starts⟩
  · intro cut
    obtain ⟨behind, split, _, boundary⟩ := cut
    rw [dropStart?_eq_some_iff.2 split]
    exact isBoundary_true_iff.2 boundary

theorem find?_startsWith (spellings : ∀ word ∈ words, IsSpelling word)
    (text : List Char) :
    words.find? (startsWith · text) =
      if text.takeWhile isWordChar ∈ words then
        some (text.takeWhile isWordChar)
      else none := by
  cases found : words.find? (startsWith · text) with
  | some word =>
      have member := List.mem_of_find?_eq_some found
      have starts := List.find?_some found
      have whole := (startsWith_iff (spellings word member)).1 starts
      rw [← whole, if_pos member]
  | none =>
      have noneStarts := List.find?_eq_none.1 found
      rw [if_neg]
      intro member
      have starts := (startsWith_iff (spellings _ member)).2 rfl
      exact noneStarts _ member starts

/-- At a place between two characters a keyword stands exactly when a whole
word begins there that is one of the keywords. -/
theorem standing?_cons (spellings : ∀ word ∈ words, IsSpelling word)
    (afterWord : Bool) (c : Char) (rest : List Char) :
    standing? words afterWord (c :: rest) =
      if afterWord = false ∧ isWordChar c = true ∧
          c :: rest.takeWhile isWordChar ∈ words then
        some (c :: rest.takeWhile isWordChar)
      else none := by
  have emptyNotIn : [] ∉ words := by
    intro member
    exact (spellings [] member).1 rfl
  unfold standing?
  rw [find?_startsWith spellings]
  cases isWord : isWordChar c with
  | false => simp [isWord, emptyNotIn]
  | true =>
      cases afterWord with
      | false => simp [isBoundary, isWord]
      | true => simp [isBoundary, isWord]

/-- The search counts the whole words that are keywords. While characters of a
word found are passed over, the search is inside that word, where no other
word begins. -/
theorem countFrom_eq_countP (spellings : ∀ word ∈ words, IsSpelling word)
    {afterWord : Bool} {skipped : Nat} {text : List Char} (offset : Nat)
    (inside : ∀ c ∈ text.take skipped, isWordChar c = true)
    (goesOn : 0 < skipped → afterWord = true) :
    countFrom words afterWord skipped text =
      (wholeWordsFrom afterWord offset text).countP
        fun found => found.2 ∈ words := by
  induction text generalizing afterWord skipped offset with
  | nil => cases skipped <;> rfl
  | cons c rest inductionHypothesis =>
      cases skipped with
      | succ left =>
          obtain ⟨isWord, insideRest⟩ := List.forall_mem_cons.1 inside
          rw [goesOn (Nat.succ_pos left), wholeWordsFrom_inside isWord,
            countFrom, isWord]
          exact inductionHypothesis (offset + 1) insideRest fun _ => rfl
      | zero =>
          have nothingLeft :
              ∀ c ∈ rest.take 0, isWordChar c = true := by simp
          rw [countFrom, standing?_cons spellings]
          cases isWord : isWordChar c with
          | false =>
              rw [wholeWordsFrom_outside isWord, if_neg (by simp)]
              exact inductionHypothesis (offset + 1) nothingLeft (by simp)
          | true =>
              cases afterWord with
              | true =>
                  rw [wholeWordsFrom_inside isWord, if_neg (by simp)]
                  exact inductionHypothesis (offset + 1) nothingLeft
                    fun _ => rfl
              | false =>
                  rw [wholeWordsFrom_start isWord]
                  by_cases member : c :: rest.takeWhile isWordChar ∈ words
                  · -- The search goes on behind the word, the list of words
                    -- behind its first character.
                    have counted :=
                      inductionHypothesis (offset + 1) isWordChar_of_mem_take
                        fun _ => rfl
                    rw [if_pos ⟨rfl, rfl, member⟩,
                      List.countP_cons_of_pos (by simpa using member),
                      ← counted]
                    rfl
                  · rw [if_neg (fun standing => member standing.2.2),
                      List.countP_cons_of_neg (by simpa using member)]
                    exact inductionHypothesis (offset + 1) nothingLeft
                      fun _ => rfl

end Search

end Keyword

namespace Vocabulary

theorem isSpelling_of_mem_words (vocabulary : Vocabulary) :
    ∀ word ∈ vocabulary.words.map String.toList,
      Keyword.IsSpelling word := by
  have checked :
      vocabulary.words.all fun keyword =>
        !keyword.toList.isEmpty && keyword.toList.all isWordChar := by
    cases vocabulary <;> decide
  intro word member
  obtain ⟨keyword, listed, rfl⟩ := List.mem_map.1 member
  have spelled := List.all_eq_true.1 checked keyword listed
  simpa [Keyword.IsSpelling] using spelled

theorem count_eq_countP (vocabulary : Vocabulary) (text : List Char) :
    vocabulary.count text =
      (wholeWords text).countP
        fun found => found.2 ∈ vocabulary.words.map String.toList := by
  have nothingSkipped : ∀ c ∈ text.take 0, isWordChar c = true := by simp
  exact Keyword.countFrom_eq_countP vocabulary.isSpelling_of_mem_words 0
    nothingSkipped (by simp)

/-- No keyword reaches across a character that is no part of a word. -/
theorem count_append_cons {c : Char}
    (outside : isWordChar c = false) (vocabulary : Vocabulary)
    (first second : List Char) :
    vocabulary.count (first ++ c :: second) =
      vocabulary.count first + vocabulary.count second := by
  simp only [vocabulary.count_eq_countP, wholeWords]
  rw [wholeWordsFrom_append_cons outside, List.countP_append, Nat.add_assoc,
    wholeWordsFrom_add, List.countP_map]
  rfl

/-- The keywords that are counted in a text are those of its whole words that
are spelled like a word of the vocabulary. The list of whole words has each of
them once, at its offset, and holds nothing else. -/
theorem count_eq_whole_words (vocabulary : Vocabulary) (text : List Char) :
    vocabulary.count text =
        (wholeWords text).countP
          (fun found => found.2 ∈ vocabulary.words.map String.toList) ∧
      (wholeWords text).Pairwise
        (fun first second => first.1 < second.1) ∧
      ∀ offset word,
        (offset, word) ∈ wholeWords text ↔ IsWholeWordAt text offset word :=
  ⟨vocabulary.count_eq_countP text,
    pairwise_offset_wholeWordsFrom false 0 text,
    fun _ _ => mem_wholeWords_iff⟩

end Vocabulary

end Preflight
