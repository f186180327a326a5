import Mathlib.Data.List.Infix
import Mathlib.Data.List.TakeWhile

/-!
# Texts without their colour sequences

A terminal takes an escape character, a bracket, numbers and the letter `m` as
a change of colour. One pass from the left strips a text: it leaves out the
sequence that starts where it stands, or keeps the character there and goes
on. What is left may read as a sequence again and stays. Two texts are stripped
apart from each other unless the second goes on where a sequence may be open
in the first.
-/

namespace Preflight.Text

/-! ## Sequences -/

/-- The characters of the numbers in a colour sequence. -/
def isParameter (c : Char) : Bool :=
  c.isDigit || c = ';'

def IsColorSequence (piece : List Char) : Prop :=
  ∃ parameters,
    piece = '\x1b' :: '[' :: (parameters ++ ['m']) ∧
      ∀ c ∈ parameters, isParameter c = true

/-- The length of the colour sequence that starts a text, if one does. -/
def sequenceLength? : List Char → Option Nat
  | '\x1b' :: '[' :: rest =>
      if (rest.dropWhile isParameter).head? = some 'm' then
        some ((rest.takeWhile isParameter).length + 3)
      else none
  | _ => none

theorem sequenceLength?_of_isColorSequence {piece : List Char}
    (sequence : IsColorSequence piece) (rest : List Char) :
    sequenceLength? (piece ++ rest) = some piece.length := by
  obtain ⟨parameters, rfl, inside⟩ := sequence
  have taken :
      (parameters ++ 'm' :: rest).takeWhile isParameter = parameters := by
    rw [List.takeWhile_append_of_pos inside]
    simp [isParameter]
  have left :
      (parameters ++ 'm' :: rest).dropWhile isParameter = 'm' :: rest := by
    rw [List.dropWhile_append_of_pos inside]
    simp [isParameter]
  simp only [List.cons_append, List.append_assoc, List.nil_append,
    sequenceLength?, taken, left, List.head?_cons, if_true,
    List.length_cons, List.length_append, List.length_nil]

theorem exists_of_sequenceLength? {text : List Char} {length : Nat}
    (found : sequenceLength? text = some length) :
    ∃ piece, IsColorSequence piece ∧ piece <+: text := by
  unfold sequenceLength? at found
  split at found
  · rename_i rest
    split at found
    · rename_i ends
      obtain ⟨behind, left⟩ := List.head?_eq_some_iff.1 ends
      refine ⟨_, ⟨rest.takeWhile isParameter, rfl, ?_⟩, behind, ?_⟩
      · exact List.all_eq_true.1 List.all_takeWhile
      · rw [List.cons_append, List.cons_append, List.append_assoc,
          List.singleton_append, ← left, List.takeWhile_append_dropWhile]
    · cases found
  · cases found

theorem sequenceLength?_eq_none_iff {text : List Char} :
    sequenceLength? text = none ↔
      ∀ piece, IsColorSequence piece → ¬ piece <+: text := by
  constructor
  · rintro none piece sequence ⟨rest, rfl⟩
    rw [sequenceLength?_of_isColorSequence sequence] at none
    cases none
  · intro noSequence
    rw [Option.eq_none_iff_forall_ne_some]
    intro length found
    obtain ⟨piece, sequence, starts⟩ := exists_of_sequenceLength? found
    exact noSequence piece sequence starts

/-! ## One pass -/

/-- What one pass leaves of a text. `skipped` says how many characters still
belong to the sequence found last. -/
def strippedFrom : (skipped : Nat) → List Char → List Char
  | _, [] => []
  | skipped + 1, _ :: rest => strippedFrom skipped rest
  | 0, c :: rest =>
      match sequenceLength? (c :: rest) with
      | some length => strippedFrom (length - 1) rest
      | none => c :: strippedFrom 0 rest

def stripped (text : List Char) : List Char :=
  strippedFrom 0 text

theorem stripped_nil : stripped [] = [] := rfl

theorem strippedFrom_eq_stripped_drop (skipped : Nat) (text : List Char) :
    strippedFrom skipped text = stripped (text.drop skipped) := by
  induction text generalizing skipped with
  | nil => cases skipped <;> rfl
  | cons c rest inductionHypothesis =>
      cases skipped with
      | zero => rfl
      | succ skipped => exact inductionHypothesis skipped

theorem stripped_sequence_append {piece : List Char}
    (sequence : IsColorSequence piece) (rest : List Char) :
    stripped (piece ++ rest) = stripped rest := by
  have found := sequenceLength?_of_isColorSequence sequence rest
  cases piece with
  | nil => rfl
  | cons c more =>
      rw [List.cons_append] at found
      rw [stripped, List.cons_append, strippedFrom, found]
      have behind := strippedFrom_eq_stripped_drop more.length (more ++ rest)
      rwa [List.drop_left] at behind

theorem stripped_cons {c : Char} {rest : List Char}
    (noSequence : ∀ piece, IsColorSequence piece → ¬ piece <+: c :: rest) :
    stripped (c :: rest) = c :: stripped rest := by
  rw [stripped, strippedFrom, sequenceLength?_eq_none_iff.2 noSequence,
    stripped]

/-- What is left of a text after one pass, step by step. -/
inductive Strips : List Char → List Char → Prop
  | nil : Strips [] []
  | sequence {piece rest left : List Char} :
      IsColorSequence piece → Strips rest left → Strips (piece ++ rest) left
  | character {c : Char} {rest left : List Char} :
      (∀ piece, IsColorSequence piece → ¬ piece <+: c :: rest) →
      Strips rest left → Strips (c :: rest) (c :: left)

theorem strips_stripped (text : List Char) : Strips text (stripped text) := by
  by_cases someSequence : ∃ piece, IsColorSequence piece ∧ piece <+: text
  · obtain ⟨piece, sequence, rest, rfl⟩ := someSequence
    have shorter : rest.length < (piece ++ rest).length := by
      obtain ⟨parameters, rfl, _⟩ := sequence
      simp only [List.cons_append, List.length_cons, List.length_append]
      omega
    rw [stripped_sequence_append sequence]
    exact Strips.sequence sequence (strips_stripped rest)
  · cases text with
    | nil => exact Strips.nil
    | cons c rest =>
        have noSequence :
            ∀ piece, IsColorSequence piece → ¬ piece <+: c :: rest :=
          fun piece sequence starts => someSequence ⟨piece, sequence, starts⟩
        rw [stripped_cons noSequence]
        exact Strips.character noSequence (strips_stripped rest)
termination_by text.length

/-- The pass leaves one thing only. -/
theorem Strips.eq_stripped {text left : List Char} (strips : Strips text left) :
    left = stripped text := by
  induction strips with
  | nil => rfl
  | sequence sequence _ inductionHypothesis =>
      rw [stripped_sequence_append sequence, inductionHypothesis]
  | character noSequence _ inductionHypothesis =>
      rw [stripped_cons noSequence, inductionHypothesis]

/-! ## Two texts, one behind the other -/

/-- The characters that may follow the escape character of a sequence. -/
def continuesSequence (c : Char) : Bool :=
  c = '[' || isParameter c || c = 'm'

/-- A text that no colour sequence in front of it can go on into. -/
def StartsApart (text : List Char) : Prop :=
  ∀ c ∈ text.head?, continuesSequence c = false

theorem startsApart_nil : StartsApart [] := by
  intro c first
  cases first

theorem startsApart_cons {c : Char} (apart : continuesSequence c = false)
    (rest : List Char) : StartsApart (c :: rest) := by
  intro first isFirst
  cases isFirst
  exact apart

theorem IsColorSequence.continues_of_mem_tail {piece : List Char}
    (sequence : IsColorSequence piece) {c : Char} (member : c ∈ piece.tail) :
    continuesSequence c = true := by
  obtain ⟨parameters, rfl, inside⟩ := sequence
  rw [List.tail_cons, List.mem_cons, List.mem_append,
    List.mem_singleton] at member
  rcases member with rfl | parameter | rfl
  · decide
  · simp [continuesSequence, inside c parameter]
  · decide

/-- A sequence that starts in one text does not end in a text apart from it. -/
theorem IsColorSequence.prefix_of_prefix_append {piece first second : List Char}
    (sequence : IsColorSequence piece) (nonempty : first ≠ [])
    (apart : StartsApart second) (starts : piece <+: first ++ second) :
    piece <+: first := by
  rcases List.prefix_or_prefix_of_prefix starts (List.prefix_append first second)
    with inFirst | ⟨more, rfl⟩
  · exact inFirst
  · cases more with
    | nil => rw [List.append_nil]
    | cons c others =>
        have inTail : c ∈ (first ++ c :: others).tail := by
          rw [List.tail_append_of_ne_nil nonempty]
          exact List.mem_append_right _ List.mem_cons_self
        have goesOn := sequence.continues_of_mem_tail inTail
        obtain ⟨rest, behind⟩ := (List.prefix_append_right_inj first).1 starts
        have isFirst : c ∈ second.head? := by
          rw [← behind]
          rfl
        rw [apart c isFirst] at goesOn
        cases goesOn

theorem Strips.append {first second left other : List Char}
    (strips : Strips first left) (stripsToo : Strips second other)
    (apart : StartsApart second) :
    Strips (first ++ second) (left ++ other) := by
  induction strips with
  | nil => exact stripsToo
  | sequence sequence _ inductionHypothesis =>
      rw [List.append_assoc]
      exact Strips.sequence sequence inductionHypothesis
  | character noSequence _ inductionHypothesis =>
      refine Strips.character ?_ inductionHypothesis
      intro piece sequence starts
      exact noSequence piece sequence
        (sequence.prefix_of_prefix_append (List.cons_ne_nil _ _) apart starts)

/-- A text behind another one is stripped by itself when it starts apart. -/
theorem stripped_append (first : List Char) {second : List Char}
    (apart : StartsApart second) :
    stripped (first ++ second) = stripped first ++ stripped second :=
  ((strips_stripped first).append (strips_stripped second) apart).eq_stripped.symm

/-! ## Texts without escape characters -/

theorem stripped_cons_of_ne {c : Char} (noEscape : c ≠ '\x1b')
    (rest : List Char) : stripped (c :: rest) = c :: stripped rest := by
  apply stripped_cons
  rintro _ ⟨parameters, rfl, _⟩ starts
  exact noEscape (List.cons_prefix_cons.1 starts).1.symm

theorem stripped_append_of_not_mem {first : List Char}
    (noEscape : '\x1b' ∉ first) (rest : List Char) :
    stripped (first ++ rest) = first ++ stripped rest := by
  induction first with
  | nil => rfl
  | cons c more inductionHypothesis =>
      rw [List.mem_cons, not_or] at noEscape
      rw [List.cons_append, stripped_cons_of_ne (Ne.symm noEscape.1),
        inductionHypothesis noEscape.2, List.cons_append]

theorem stripped_eq_self {text : List Char} (noEscape : '\x1b' ∉ text) :
    stripped text = text := by
  have alone := stripped_append_of_not_mem noEscape []
  rwa [List.append_nil, stripped_nil, List.append_nil] at alone

/-- Only one pass is made, so two halves of a sequence that meet stay. -/
example :
    stripped "\x1b\x1b[0m[0mred".toList = "\x1b[0mred".toList := by
  decide

end Preflight.Text
