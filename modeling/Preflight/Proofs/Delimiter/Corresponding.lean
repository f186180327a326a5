import Mathlib.Data.List.Forall2
import Preflight.Proofs.Delimiter.Run

/-!
# Scans that take the same steps

Whether a scan reads on does not depend on the places that it counts. So two
scans that differ in their places only end in the same way, with places that
correspond wherever those of the characters read do.
-/

namespace Preflight

variable (corresponds : Position → Position → Prop)

def Frame.Corresponds (frame other : Frame) : Prop :=
  other.delimiter = frame.delimiter ∧
    corresponds frame.position other.position

def Imbalance.Corresponds (imbalance other : Imbalance) : Prop :=
  other.kind = imbalance.kind ∧ other.character = imbalance.character ∧
    corresponds imbalance.position other.position

namespace Pending

/-- Two scans that both read on and have corresponding openers waiting, or that
both end at corresponding closers. -/
inductive OutcomesCorrespond :
    Except Imbalance Pending → Except Imbalance Pending → Prop
  | readOn {pending other : Pending} :
      List.Forall₂ (Frame.Corresponds corresponds)
        pending.waiting other.waiting →
      OutcomesCorrespond (.ok pending) (.ok other)
  | ends {imbalance other : Imbalance} :
      imbalance.Corresponds corresponds other →
      OutcomesCorrespond (.error imbalance) (.error other)

variable {corresponds}

theorem read_corresponds {pending other : Pending} {c : Char}
    (waits : List.Forall₂ (Frame.Corresponds corresponds)
      pending.waiting other.waiting)
    (placed : corresponds (pending.place.next c) (other.place.next c)) :
    OutcomesCorrespond corresponds (pending.read c) (other.read c) := by
  obtain ⟨waiting, place⟩ := pending
  obtain ⟨otherWaiting, otherPlace⟩ := other
  unfold read
  cases Delimiter.role c with
  | neutral =>
      exact .readOn waits
  | opens delimiter =>
      exact .readOn (.cons ⟨rfl, placed⟩ waits)
  | closes delimiter =>
      cases waits with
      | nil =>
          exact .ends ⟨rfl, rfl, placed⟩
      | @cons frame otherFrame outer otherOuter frames outers =>
          have sameDelimiter := frames.1
          by_cases fits : frame.delimiter = delimiter
          · have fitsToo := sameDelimiter.trans fits
            simp only [if_pos fits, if_pos fitsToo]
            exact .readOn outers
          · have fitsNeither : ¬ otherFrame.delimiter = delimiter := by
              rw [sameDelimiter]
              exact fits
            simp only [if_neg fits, if_neg fitsNeither]
            exact .ends ⟨rfl, rfl, placed⟩

/-- Two scans that take one step together go on together when they do so behind
it. -/
theorem readAll_cons_corresponds {pending other : Pending} {c : Char}
    {rest otherRest : List Char}
    (stepped :
      OutcomesCorrespond corresponds (pending.read c) (other.read c))
    (goOn : ∀ next otherNext,
      pending.read c = .ok next → other.read c = .ok otherNext →
      List.Forall₂ (Frame.Corresponds corresponds)
        next.waiting otherNext.waiting →
      OutcomesCorrespond corresponds
        (next.readAll rest) (otherNext.readAll otherRest)) :
    OutcomesCorrespond corresponds
      (pending.readAll (c :: rest)) (other.readAll (c :: otherRest)) := by
  rw [readAll, readAll]
  generalize read : pending.read c = outcome at stepped
  generalize readToo : other.read c = otherOutcome at stepped
  cases stepped with
  | readOn waits => exact goOn _ _ read readToo waits
  | ends found => exact .ends found

/-- Two scans of one text take the same steps. All that is asked of their places
is that those of each character of the text correspond. -/
theorem readAll_corresponds (pending other : Pending) {text : List Char}
    (waits : List.Forall₂ (Frame.Corresponds corresponds)
      pending.waiting other.waiting)
    (placed : ∀ before c, before ++ [c] <+: text →
      corresponds (pending.place.after (before ++ [c]))
        (other.place.after (before ++ [c]))) :
    OutcomesCorrespond corresponds
      (pending.readAll text) (other.readAll text) := by
  induction text generalizing pending other with
  | nil =>
      exact .readOn waits
  | cons c rest inductionHypothesis =>
      have firstPlaced :
          corresponds (pending.place.next c) (other.place.next c) :=
        placed [] c ⟨rest, rfl⟩
      apply readAll_cons_corresponds (read_corresponds waits firstPlaced)
      intro next otherNext read readToo nextWaits
      apply inductionHypothesis next otherNext nextWaits
      intro before d more
      have reached := placed (c :: before) d (by simpa using more)
      rw [(read_eq_ok_iff.1 read).place_eq,
        (read_eq_ok_iff.1 readToo).place_eq]
      exact reached

end Pending

variable {corresponds}

theorem Imbalance.atEnd?_corresponds {waiting otherWaiting : List Frame}
    (waits : List.Forall₂ (Frame.Corresponds corresponds)
      waiting otherWaiting) :
    Option.Rel (Imbalance.Corresponds corresponds)
      (atEnd? waiting) (atEnd? otherWaiting) := by
  cases waits with
  | nil =>
      exact .none
  | cons frames outers =>
      refine .some ⟨rfl, ?_, frames.2⟩
      rw [frames.1]

theorem Delimiter.scan_corresponds {text other : List Char}
    (run : Pending.OutcomesCorrespond corresponds
      (Pending.start.readAll text) (Pending.start.readAll other)) :
    Option.Rel (Imbalance.Corresponds corresponds)
      (scan text) (scan other) := by
  unfold scan
  generalize Pending.start.readAll text = outcome at run
  generalize Pending.start.readAll other = otherOutcome at run
  cases run with
  | readOn waits =>
      exact Imbalance.atEnd?_corresponds waits
  | ends found =>
      exact .some found

end Preflight
