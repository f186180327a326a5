import Preflight.Pattern.Reader
import Preflight.Proofs.Pattern.Matches

/-!
# Texts taken literally

A text becomes a pattern of its own when a backslash is put in front of each
character that means something in patterns. Reading this pattern gives the
characters of the text, one after the other, and it matches the text and nothing
else.
-/

namespace Preflight.Pattern

open Read

/-- A text as a part of the text of a pattern. -/
def escaped (text : List Char) : List Char :=
  text.flatMap fun c => if c ∈ metaCharacters then ['\\', c] else [c]

/-- The pattern that a character is. -/
def literal (c : Char) : Pattern := .one (.single c)

/-! ## Reading -/

section Reading

variable {c : Char} {size : Nat} {rest : List Char}

theorem run_atom_plain (plain : c ∉ metaCharacters) :
    ∃ span,
      (atom c).run { size, rest := c :: rest } =
        .ok (⟨.literal c, span⟩, { size, rest }) := by
  have notBackslash : c ≠ '\\' := fun same => plain (by rw [same]; decide)
  have notDot : c ≠ '.' := fun same => plain (by rw [same]; decide)
  have notCaret : c ≠ '^' := fun same => plain (by rw [same]; decide)
  have notDollar : c ≠ '$' := fun same => plain (by rw [same]; decide)
  rw [atom, if_neg notBackslash]
  simp only [position, skip, StateT.run_bind, StateT.run_modify,
    StateT.run_get, StateT.run_pure, pure_bind]
  exact ⟨_, rfl⟩

/-- Characters that mean something in patterns have no meaning of their own
behind a backslash. -/
theorem escapable_of_mem_metaCharacters (isMeta : c ∈ metaCharacters) :
    c ∉ ['x', 'u', 'U', 'p', 'P'] ∧ c.isDigit = false ∧
      isEscapable c = true := by
  have checked :
      metaCharacters.all (fun c =>
        decide (c ∉ ['x', 'u', 'U', 'p', 'P']) && !c.isDigit &&
          isEscapable c) = true := by
    decide
  have found := List.all_eq_true.1 checked c isMeta
  rw [Bool.and_eq_true, Bool.and_eq_true, decide_eq_true_eq,
    Bool.not_eq_true'] at found
  obtain ⟨⟨noLetter, noDigit⟩, escapable⟩ := found
  exact ⟨noLetter, noDigit, escapable⟩

theorem run_atom_escaped (isMeta : c ∈ metaCharacters) :
    ∃ span,
      (atom '\\').run { size, rest := '\\' :: c :: rest } =
        .ok (⟨.literal c, span⟩, { size, rest }) := by
  obtain ⟨noLetter, noDigit, escapable⟩ :=
    escapable_of_mem_metaCharacters isMeta
  simp only [List.mem_cons, List.not_mem_nil, or_false, not_or] at noLetter
  rw [atom, if_pos rfl, escape]
  simp only [position, skip, next?, StateT.run_bind, StateT.run_modify,
    StateT.run_get, StateT.run_pure, pure_bind, List.drop_one, List.tail_cons,
    List.head?_cons]
  split
  · simp_all
  · simp_all
  · simp_all
  · simp_all
  · simp_all
  · simp only [noDigit, shortEscape, escapable, if_true]
    exact ⟨_, rfl⟩

/-- The branches go on with an atom where no structure of the pattern
starts. -/
theorem run_branches_atom (fuel : Nat) (opening : Option Span)
    (found : Branches)
    (noStructure : c ∉ [')', '|', '(', '[', '\x7b'])
    (noOperator : operator? c = none) {placed : Placed} {behind : Reading}
    (read :
      (atom c).run { size, rest := c :: rest } = .ok (placed, behind)) :
    (branches (fuel + 1) opening found).run { size, rest := c :: rest } =
      (do
        let pattern ← atomPattern placed
        branches fuel opening
          (found.add (.pattern pattern)) : Read Pattern).run behind := by
  simp only [List.mem_cons, List.not_mem_nil, or_false, not_or] at noStructure
  conv =>
    lhs
    unfold branches
  simp only [skipBlanks, next?, StateT.run_bind, StateT.run_modify,
    StateT.run_get, StateT.run_pure, pure_bind, List.head?_cons,
    Bool.false_eq_true, if_false]
  split
  · simp_all
  · simp_all
  · simp_all
  · simp_all
  · simp_all
  · simp_all
  · rename_i same
    cases same
    rw [noOperator]
    simp only [StateT.run_bind, read]
    rfl

theorem structure_mem_metaCharacters
    (structural : c ∈ [')', '|', '(', '[', '\x7b']) :
    c ∈ metaCharacters := by
  have checked :
      [')', '|', '(', '[', '\x7b'].all metaCharacters.contains = true := by
    decide
  exact List.contains_iff_mem.1 (List.all_eq_true.1 checked c structural)

theorem mem_metaCharacters_of_operator? {bounds : Bounds}
    (isOperator : operator? c = some bounds) : c ∈ metaCharacters := by
  unfold operator? at isOperator
  split at isOperator
  · decide
  · decide
  · decide
  · cases isOperator

theorem run_branches_literal (fuel : Nat) (opening : Option Span)
    (found : Branches) (c : Char) (rest : List Char) :
    (branches (fuel + 1) opening found).run
        { size, rest := escaped [c] ++ rest } =
      (branches fuel opening
        (found.add (.pattern (literal c)))).run { size, rest } := by
  by_cases isMeta : c ∈ metaCharacters
  · obtain ⟨span, read⟩ := run_atom_escaped isMeta
    have spelt : escaped [c] ++ rest = '\\' :: c :: rest := by
      simp [escaped, isMeta]
    rw [spelt, run_branches_atom fuel opening found (by decide) rfl read]
    rfl
  · obtain ⟨span, read⟩ := run_atom_plain isMeta
    have spelt : escaped [c] ++ rest = c :: rest := by
      simp [escaped, isMeta]
    have noStructure : c ∉ [')', '|', '(', '[', '\x7b'] := fun structural =>
      isMeta (structure_mem_metaCharacters structural)
    have noOperator : operator? c = none := by
      cases found : operator? c with
      | none =>
          rfl
      | some bounds =>
          exact absurd (mem_metaCharacters_of_operator? found) isMeta
    rw [spelt, run_branches_atom fuel opening found noStructure noOperator read]
    rfl

/-- Reading a text that is taken literally adds its characters to the row. -/
theorem run_branches_escaped (fuel : Nat) (opening : Option Span)
    (found : Branches) (text rest : List Char) :
    (branches (text.length + fuel) opening found).run
        { size, rest := escaped text ++ rest } =
      (branches fuel opening
        { found with
          row := (text.map fun c => .pattern (literal c)).reverse ++
            found.row }).run { size, rest } := by
  induction text generalizing found with
  | nil =>
      rw [List.length_nil, Nat.zero_add]
      rfl
  | cons c more inductionHypothesis =>
      have spelt :
          escaped (c :: more) ++ rest =
            escaped [c] ++ (escaped more ++ rest) := by
        simp [escaped]
      have count :
          (c :: more).length + fuel = (more.length + fuel) + 1 := by
        simp only [List.length_cons]
        omega
      rw [spelt, count, run_branches_literal, inductionHypothesis]
      simp [Branches.add]

end Reading

/-! ## Matching -/

section Matching

variable {before piece behind : List Char}

theorem matches_literals {text : List Char} {others : List Pattern} :
    (inSequence (text.map literal ++ others)).Matches before piece behind ↔
      ∃ rest,
        piece = text ++ rest ∧
          (inSequence others).Matches (before ++ text) rest behind := by
  induction text generalizing before piece with
  | nil =>
      simp
  | cons c more inductionHypothesis =>
      constructor
      · rintro ⟨_, _, rfl, ⟨d, rfl, same⟩, found⟩
        obtain ⟨rest, rfl, foundRest⟩ := inductionHypothesis.1 found
        have isChar : c = d := by simpa using same
        subst isChar
        exact ⟨rest, rfl, by simpa using foundRest⟩
      · rintro ⟨rest, rfl, found⟩
        refine ⟨[c], more ++ rest, rfl, ⟨c, rfl, by simp⟩, ?_⟩
        exact inductionHypothesis.2 ⟨rest, rfl, by simpa using found⟩

theorem times_one {among : CharClass} {count : Nat} :
    (Matches (.one among)).times count before piece behind ↔
      piece.length = count ∧ ∀ c ∈ piece, among.contains c = true := by
  induction count generalizing before piece with
  | zero =>
      rw [List.length_eq_zero_iff]
      constructor
      · rintro rfl
        exact ⟨rfl, by simp⟩
      · exact fun empty => empty.1
  | succ count inductionHypothesis =>
      constructor
      · rintro ⟨_, rest, rfl, ⟨c, rfl, isAmong⟩, found⟩
        obtain ⟨length, among⟩ := inductionHypothesis.1 found
        exact ⟨by simp [length], List.forall_mem_cons.2 ⟨isAmong, among⟩⟩
      · rintro ⟨length, among⟩
        cases piece with
        | nil =>
            cases length
        | cons c rest =>
            obtain ⟨isAmong, amongRest⟩ := List.forall_mem_cons.1 among
            refine ⟨[c], rest, rfl, ⟨c, rfl, isAmong⟩, ?_⟩
            exact inductionHypothesis.2 ⟨by simpa using length, amongRest⟩

theorem matches_repeated_one {least : Nat} {among : CharClass} :
    (Pattern.repeated least none (.one among)).Matches before piece
        behind ↔
      least ≤ piece.length ∧ ∀ c ∈ piece, among.contains c = true := by
  constructor
  · rintro ⟨extra, _, found⟩
    obtain ⟨length, among⟩ := times_one.1 found
    exact ⟨by omega, among⟩
  · rintro ⟨enough, among⟩
    refine ⟨piece.length - least, by simp, times_one.2 ⟨?_, among⟩⟩
    omega

end Matching

end Preflight.Pattern
