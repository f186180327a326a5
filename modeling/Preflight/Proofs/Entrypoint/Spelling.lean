import Preflight.Proofs.Entrypoint
import Preflight.Proofs.Pattern.Literal
import Preflight.Proofs.Text.Name

/-!
# The declaration of an entrypoint as a pattern

A declaration can be asked for in the language of patterns: an edge of a word,
an `f`, white space, the name, more white space and a parenthesis. The name is
taken literally. Whatever name is put into this pattern, it can be read, and it
occurs in the texts in which the entrypoint is declared and in no others.
-/

namespace Preflight.Entrypoint

open Pattern Text

/-- The text of the pattern for a declaration of the name. -/
def spelling (name : List Char) : List Char :=
  "(?-u:\\b)f\\s+".toList ++ escaped name ++ "\\s*\\(".toList

/-- The ASCII characters of words. -/
def wordParts : CharClass :=
  .ofRanges [('0', '9'), ('A', 'Z'), ('_', '_'), ('a', 'z')]

def wordEdge : Pattern := .gap (.word .boundary wordParts)

def spaces (least : Nat) : Pattern :=
  .repeated least none (.one (.having .space))

def pattern (name : List Char) : Pattern :=
  inSequence
    (inSequence [wordEdge] :: literal 'f' :: spaces 1 ::
      (name.map literal ++ [spaces 0, literal '(']))

/-! ## Reading the pattern -/

section Reading

open Read

variable {size : Nat} {rest : List Char}

theorem run_branches_edge (fuel : Nat) :
    (branches (fuel + 3) none {}).run
        { size, rest := ['(', '?', '-', 'u', ':', '\\', 'b', ')'] ++ rest } =
      (branches (fuel + 2) none
        { row := [.pattern (inSequence [wordEdge])] }).run { size, rest } :=
  rfl

theorem run_branches_space (fuel : Nat) (found : Branches) :
    (branches (fuel + 1) none found).run
        { size, rest := ['\\', 's'] ++ rest } =
      (branches fuel none
        (found.add (.pattern (.one (.having .space))))).run { size, rest } :=
  rfl

theorem run_branches_plus (fuel : Nat) (row : List Item) (body : Pattern)
    (eager : rest.head? ≠ some '?') :
    (branches (fuel + 1) none { row := .pattern body :: row }).run
        { size, rest := ['+'] ++ rest } =
      (branches fuel none
        { row := .pattern (.repeated 1 none body) :: row }).run
          { size, rest } := by
  have notLazy : dropStart? "?".toList rest = none := by
    cases rest with
    | nil =>
        rfl
    | cons c more =>
        have other : ¬ '?' = c := fun same => eager (by rw [same]; rfl)
        exact if_neg other
  have passed : skipLazy.run { size, rest } = .ok ((), { size, rest }) := by
    simp only [skipLazy, accept, StateT.run_bind, StateT.run_get, pure_bind,
      notLazy]
    rfl
  change (skipLazy.run { size, rest } >>= fun (_, reading) =>
    (branches fuel none
      { row := .pattern (.repeated 1 none body) :: row }).run reading) = _
  rw [passed]
  rfl

theorem run_branches_finish (fuel : Nat) (row : List Item) :
    (branches (fuel + 4) none { row }).run
        { size, rest := ['\\', 's', '*', '\\', '('] } =
      .ok (({ row := .pattern (literal '(') :: .pattern (spaces 0) :: row } :
        Branches).toPattern, { size, rest := [] }) :=
  rfl

/-- What is taken literally does not make an operator in front of it lazy. -/
theorem head?_escaped_append (name rest : List Char)
    (eager : rest.head? ≠ some '?') :
    (escaped name ++ rest).head? ≠ some '?' := by
  cases name with
  | nil =>
      exact eager
  | cons c more =>
      by_cases isMeta : c ∈ metaCharacters
      · simp [escaped, isMeta]
      · have other : c ≠ '?' := fun same => isMeta (by rw [same]; decide)
        simp [escaped, isMeta, other]

theorem length_le_length_escaped (name : List Char) :
    name.length ≤ (escaped name).length := by
  induction name with
  | nil =>
      exact Nat.le_refl 0
  | cons c more inductionHypothesis =>
      have spelt : escaped (c :: more) = escaped [c] ++ escaped more := by
        simp [escaped]
      have atLeastOne : 1 ≤ (escaped [c]).length := by
        by_cases isMeta : c ∈ metaCharacters <;> simp [escaped, isMeta]
      rw [spelt, List.length_append, List.length_cons]
      omega

theorem spelling_eq (name : List Char) :
    spelling name =
      ['(', '?', '-', 'u', ':', '\\', 'b', ')'] ++
        (escaped ['f'] ++
          (['\\', 's'] ++
            (['+'] ++ (escaped name ++ ['\\', 's', '*', '\\', '('])))) :=
  List.append_assoc _ _ _

theorem ofText_spelling (name : List Char) :
    Pattern.ofText (spelling name) = .ok (pattern name) := by
  have enough := length_le_length_escaped name
  -- Each item takes a unit of fuel, and no item is longer than its text.
  obtain ⟨more, fuel⟩ :
      ∃ more,
        (spelling name).length + 1 = name.length + (more + 4) + 4 := by
    rw [spelling_eq]
    simp only [List.length_append, List.length_cons, List.length_nil]
    exact ⟨9 + (escaped ['f']).length + (escaped name).length - name.length,
      by omega⟩
  have eager :
      (escaped name ++ ['\\', 's', '*', '\\', '(']).head? ≠ some '?' :=
    head?_escaped_append name _ (by decide)
  have read :
      (branches ((spelling name).length + 1) none {}).run
          { size := (spelling name).length, rest := spelling name } =
        .ok (pattern name,
          { size := (spelling name).length, rest := [] }) := by
    rw [fuel]
    generalize (spelling name).length = size
    rw [spelling_eq, run_branches_edge, run_branches_literal,
      run_branches_space]
    refine (run_branches_plus _ _ _ eager).trans ?_
    rw [run_branches_escaped, run_branches_finish]
    simp only [Branches.toPattern, Branches.rowPattern, Branches.add,
      List.reverse_cons, List.reverse_append, List.reverse_nil,
      List.nil_append, List.cons_append, List.reverse_reverse,
      List.append_assoc, List.map_cons, List.map_append, List.map_map,
      List.map_nil]
    rfl
  unfold Pattern.ofText
  simp only [read]
  rfl

end Reading

/-! ## Matching the pattern -/

section Matching

variable {before piece behind : List Char}

theorem contains_wordParts (c : Char) :
    wordParts.contains c = isWordChar c := by
  rw [Bool.eq_iff_iff, isWordChar_iff]
  simp only [wordParts, CharClass.ofRanges, List.foldl_cons, List.foldl_nil,
    CharClass.contains, Bool.or_eq_true, Bool.and_eq_true, decide_eq_true_eq,
    Bool.false_or, IsLetter]
  have underscore : '_' ≤ c ∧ c ≤ '_' ↔ c = '_' :=
    ⟨fun both => Char.le_antisymm both.2 both.1,
      fun same => same ▸ ⟨Char.le_refl c, Char.le_refl c⟩⟩
  rw [underscore]
  simp only [or_assoc, or_comm]

/-- In front of a character of a word there is an edge where no other such
character stands. -/
theorem matches_wordEdge {c : Char} (isWord : isWordChar c = true) :
    wordEdge.Matches before [] (c :: behind) ↔
      ∀ d ∈ before.getLast?, isWordChar d = false := by
  cases last : before.getLast? with
  | none =>
      simp [wordEdge, Matches, Assertion.holds, WordEdge.holds,
        contains_wordParts, isWord, last]
  | some d =>
      simp [wordEdge, Matches, Assertion.holds, WordEdge.holds,
        contains_wordParts, isWord, last]

theorem matches_spaces (least : Nat) :
    (spaces least).Matches before piece behind ↔
      least ≤ piece.length ∧ ∀ c ∈ piece, isSpace c = true :=
  matches_repeated_one

/-- Behind the name the gap may be empty, and then the parenthesis is the end
of the piece. -/
theorem matches_tail :
    (inSequence [spaces 0, literal '(']).Matches before piece behind ↔
      ∃ space, piece = space ++ ['('] ∧ ∀ c ∈ space, isSpace c = true := by
  constructor
  · rintro ⟨space, _, rfl, spaced, _, _, rfl, ⟨c, rfl, same⟩, rfl⟩
    have isParenthesis : '(' = c := by simpa using same
    subst isParenthesis
    exact ⟨space, rfl, ((matches_spaces 0).1 spaced).2⟩
  · rintro ⟨space, rfl, spaced⟩
    exact ⟨space, ['('], rfl,
      (matches_spaces 0).2 ⟨Nat.zero_le _, spaced⟩, ['('], [], rfl,
      ⟨'(', rfl, by decide⟩, rfl⟩

theorem matches_pattern (name : List Char) :
    (pattern name).Matches before piece behind ↔
      ∃ gap space,
        piece = 'f' :: gap ++ name ++ space ++ ['('] ∧
          (∀ c ∈ before.getLast?, isWordChar c = false) ∧
          gap ≠ [] ∧ (∀ c ∈ gap, isSpace c = true) ∧
          ∀ c ∈ space, isSpace c = true := by
  have isWord : isWordChar 'f' = true := by decide
  constructor
  · rintro ⟨_, _, rfl, ⟨edge, _, rfl, starts, rfl⟩, _, _, rfl,
      ⟨c, rfl, same⟩, gap, _, rfl, spaced, named⟩
    have isF : 'f' = c := by simpa using same
    subst isF
    obtain ⟨rest, rfl, tail⟩ := matches_literals.1 named
    obtain ⟨space, rfl, spacedToo⟩ := matches_tail.1 tail
    obtain ⟨nonempty, gaps⟩ := (matches_spaces 1).1 spaced
    cases starts.1
    refine ⟨gap, space, by simp, (matches_wordEdge isWord).1 starts, ?_, gaps,
      spacedToo⟩
    exact List.length_pos_iff.1 nonempty
  · rintro ⟨gap, space, rfl, starts, nonempty, gaps, spaced⟩
    have named :
        (inSequence (name.map literal ++ [spaces 0, literal '('])).Matches
          (before ++ [] ++ ['f'] ++ gap) (name ++ (space ++ ['('])) behind :=
      matches_literals.2 ⟨_, rfl, matches_tail.2 ⟨space, rfl, spaced⟩⟩
    have gapFound :
        (spaces 1).Matches (before ++ [] ++ ['f']) gap
          (name ++ (space ++ ['(']) ++ behind) :=
      (matches_spaces 1).2 ⟨List.length_pos_iff.2 nonempty, gaps⟩
    refine ⟨[], 'f' :: (gap ++ (name ++ (space ++ ['(']))), by simp,
      ⟨[], [], rfl, (matches_wordEdge isWord).2 starts, rfl⟩, ['f'], _, rfl,
      ⟨'f', rfl, by decide⟩, gap, _, rfl, gapFound, named⟩

end Matching

theorem occursIn_pattern_iff {name text : List Char} :
    (pattern name).occursIn text = true ↔ Declares name text := by
  rw [occursIn_iff]
  simp only [matches_pattern]
  constructor
  · rintro ⟨before, _, behind, rfl, gap, space, rfl, rest⟩
    exact ⟨before, gap, space, behind, by simp, rest⟩
  · rintro ⟨before, gap, space, behind, rfl, rest⟩
    exact ⟨before, _, behind, by simp, gap, space, rfl, rest⟩

/-- An entrypoint is declared in a text exactly when the text can be cut into an
`f` that continues no word of ASCII characters, a gap, the name, another gap
that may be empty, and a parenthesis. The name may be any text, so it may end in
white space that could belong to a gap, and it may hold characters that mean
something in patterns. The pattern for the declaration can be read for every
name, and it occurs in the same texts. -/
theorem isDeclared_iff_exists_cut (name text : List Char) :
    (isDeclared name text = true ↔
        ∃ before gap space behind : List Char,
          text = before ++ 'f' :: gap ++ name ++ space ++ '(' :: behind ∧
            (before = [] ∨ ∃ start last, before = start ++ [last] ∧
              ¬ (IsLetter last ∨ '0' ≤ last ∧ last ≤ '9' ∨ last = '_')) ∧
            gap ≠ [] ∧ (∀ c ∈ gap, isSpace c = true) ∧
            ∀ c ∈ space, isSpace c = true) ∧
      ∃ found,
        Pattern.ofText (spelling name) = .ok found ∧
          found.occursIn text = isDeclared name text := by
  have starts (before : List Char) :
      (∀ c ∈ before.getLast?, isWordChar c = false) ↔
        before = [] ∨ ∃ start last, before = start ++ [last] ∧
          ¬ (IsLetter last ∨ '0' ≤ last ∧ last ≤ '9' ∨ last = '_') := by
    simp only [← isWordChar_iff, Bool.not_eq_true,
      List.getLast?_eq_some_iff, Option.mem_def]
    constructor
    · intro outside
      rcases List.eq_nil_or_concat before with empty | ⟨start, last, ends⟩
      · exact Or.inl empty
      · rw [List.concat_eq_append] at ends
        exact Or.inr ⟨start, last, ends, outside last ⟨start, ends⟩⟩
    · rintro (rfl | ⟨start, last, rfl, outside⟩) c ⟨other, same⟩
      · simp at same
      · obtain ⟨_, isLast⟩ := List.append_inj' same rfl
        cases isLast
        exact outside
  refine ⟨?_, pattern name, ofText_spelling name, ?_⟩
  · rw [isDeclared_iff, Declares]
    simp only [starts]
  · rw [Bool.eq_iff_iff, occursIn_pattern_iff, isDeclared_iff]

example :
    isDeclared " f( ".toList "éf \n f(  (".toList = true ∧
      isDeclared " f( ".toList "ef \n f(  (".toList = false := by
  decide

end Preflight.Entrypoint
