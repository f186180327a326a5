import Preflight.Proofs.Delimiter.Nesting

/-!
# Completions

Which texts can still be continued to a balanced one, and how. The openers
that wait ask for their closers, innermost first. That text balances them, and
no other text of closers does. So an unmatched closer is the one imbalance
that nothing repairs, and an unclosed opener comes with its repair.
-/

namespace Preflight.Delimiter

/-- A text that some continuation balances. -/
def Completable (text : List Char) : Prop :=
  ∃ suffix, scan (text ++ suffix) = none

/-- A character that closes a pair. -/
def IsCloser (c : Char) : Prop :=
  ∃ delimiter : Delimiter, c = delimiter.closer

/-- The closers that waiting openers ask for, innermost first. -/
def closing (waiting : List Frame) : List Char :=
  waiting.map fun frame => frame.delimiter.closer

theorem isCloser_of_mem_closing {waiting : List Frame} {c : Char}
    (member : c ∈ closing waiting) : IsCloser c := by
  obtain ⟨frame, _, rfl⟩ := List.mem_map.1 member
  exact ⟨frame.delimiter, rfl⟩

/-! ## Closing what waits -/

theorem readAll_closing (waiting : List Frame) (place : Position) :
    (⟨waiting, place⟩ : Pending).readAll (closing waiting) =
      .ok ⟨[], place.after (closing waiting)⟩ := by
  induction waiting generalizing place with
  | nil => rfl
  | cons frame outer inductionHypothesis =>
      have closed := Pending.read_closer frame outer place
      rw [closing, List.map_cons, Pending.readAll_cons_of_read closed]
      exact inductionHypothesis _

theorem scan_append_closing {text : List Char} {pending : Pending}
    (read : Pending.start.readAll text = .ok pending) :
    scan (text ++ closing pending.waiting) = none := by
  have closed :=
    (Pending.readAll_append read _).trans
      (readAll_closing pending.waiting pending.place)
  exact scan_of_readAll_eq_ok closed

/-- A closer that is read is the one that the innermost opener waits for. -/
theorem waiting_of_reads_closer {pending next : Pending} {c : Char}
    (isCloser : IsCloser c) (reads : pending.Reads c next) :
    ∃ frame, pending.waiting = frame :: next.waiting ∧
      c = frame.delimiter.closer := by
  obtain ⟨delimiter, rfl⟩ := isCloser
  have role := role_closer delimiter
  cases reads with
  | neutral isNeutral =>
      rw [role_eq_neutral_iff.2 isNeutral] at role
      cases role
  | opens other isOpener =>
      rw [role_eq_opens_iff.2 isOpener] at role
      cases role
  | closes frame outer isFrameCloser waits =>
      exact ⟨frame, waits, isFrameCloser⟩

/-- No other closers close everything. -/
theorem eq_closing_of_readAll {pending : Pending} {text : List Char}
    {place : Position} (closers : ∀ c ∈ text, IsCloser c)
    (read : pending.readAll text = .ok ⟨[], place⟩) :
    text = closing pending.waiting := by
  induction text generalizing pending with
  | nil =>
      cases read
      rfl
  | cons c rest inductionHypothesis =>
      obtain ⟨isCloser, restClosers⟩ := List.forall_mem_cons.1 closers
      obtain ⟨next, reads, restRead⟩ :=
        Pending.readAll_cons_eq_ok_iff.1 read
      obtain ⟨frame, waits, isFrameCloser⟩ :=
        waiting_of_reads_closer isCloser reads
      rw [waits, isFrameCloser, inductionHypothesis restClosers restRead]
      rfl

/-! ## Texts that can be completed -/

theorem completable_iff_readAll (text : List Char) :
    Completable text ↔
      ∃ pending, Pending.start.readAll text = .ok pending := by
  constructor
  · rintro ⟨suffix, balanced⟩
    rw [scan_eq_none_iff_readAll] at balanced
    exact Pending.readAll_of_append balanced
  · rintro ⟨pending, read⟩
    exact ⟨closing pending.waiting, scan_append_closing read⟩

theorem not_completable_iff_readAll (text : List Char) :
    ¬ Completable text ↔
      ∃ imbalance, Pending.start.readAll text = .error imbalance := by
  rw [completable_iff_readAll]
  cases Pending.start.readAll text <;> simp

theorem Completable.of_append {first second : List Char}
    (completable : Completable (first ++ second)) : Completable first := by
  obtain ⟨suffix, balanced⟩ := completable
  exact ⟨second ++ suffix, by rwa [← List.append_assoc]⟩

/-- Completing stops being possible at one character for good. -/
theorem completable_take_iff {before rest : List Char} {c : Char}
    (completable : Completable before)
    (lost : ¬ Completable (before ++ [c])) (length : Nat) :
    Completable ((before ++ c :: rest).take length) ↔
      length ≤ before.length := by
  constructor
  · intro stillCompletable
    refine Nat.le_of_not_lt fun longer => ?_
    have whole : before ++ c :: rest = (before ++ [c]) ++ rest := by simp
    have reaches : (before ++ [c]).length ≤ length := by
      simp only [List.length_append, List.length_singleton]
      omega
    rw [whole, List.take_append, List.take_of_length_le reaches]
      at stillCompletable
    exact lost stillCompletable.of_append
  · intro within
    rw [List.take_append_of_le_length within]
    rw [← List.take_append_drop length before] at completable
    exact completable.of_append

end Preflight.Delimiter
