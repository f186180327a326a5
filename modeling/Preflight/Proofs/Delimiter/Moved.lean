import Preflight.Proofs.Delimiter.Run
import Preflight.Proofs.Text.Place

/-!
# Scans that start farther down

A scan does not depend on the line it starts in: with some lines above the
text it takes the same steps, that many lines farther down. Behind a balanced
text and a line feed a scan is such a scan, since nothing waits there and the
column starts again. A scan that has ended at a closer stays ended.
-/

namespace Preflight

namespace Position

/-- The same column, some lines farther down. -/
def movedDown (position : Position) (lines : Nat) : Position :=
  ⟨position.line + lines, position.column⟩

theorem next_movedDown (before : Position) (lines : Nat) (c : Char) :
    (before.movedDown lines).next c = (before.next c).movedDown lines := by
  by_cases feed : c = '\n'
  · simp only [next, movedDown, if_pos feed, Position.mk.injEq, and_true]
    omega
  · simp only [next, movedDown, if_neg feed]

/-- Behind a line feed the lines of a text are above, and the column starts
again. -/
theorem next_feed_after (text : List Char) :
    (beforeText.after text).next '\n' =
      beforeText.movedDown (Text.lines text).length := by
  obtain ⟨above, last, split, placed⟩ := Text.exists_splitFeeds_after text
  have lineCount : (Text.lines text).length = above.length + 1 := by
    rw [Text.lines, List.length_map, split, List.length_append]
    rfl
  rw [placed, lineCount]
  simp only [next, if_pos, movedDown, beforeText, Position.mk.injEq, and_true]
  omega

end Position

def Frame.movedDown (frame : Frame) (lines : Nat) : Frame :=
  { frame with position := frame.position.movedDown lines }

def Imbalance.movedDown (imbalance : Imbalance) (lines : Nat) : Imbalance :=
  { imbalance with position := imbalance.position.movedDown lines }

theorem Imbalance.atEnd?_movedDown (waiting : List Frame) (lines : Nat) :
    atEnd? (waiting.map (·.movedDown lines)) =
      (atEnd? waiting).map (·.movedDown lines) := by
  cases waiting <;> rfl

namespace Pending

def movedDown (pending : Pending) (lines : Nat) : Pending :=
  ⟨pending.waiting.map (·.movedDown lines), pending.place.movedDown lines⟩

theorem read_movedDown (pending : Pending) (lines : Nat) (c : Char) :
    (pending.movedDown lines).read c =
      ((pending.read c).map (·.movedDown lines)).mapError
        (·.movedDown lines) := by
  simp only [read, movedDown, Position.next_movedDown]
  cases Delimiter.role c with
  | neutral => rfl
  | opens delimiter => rfl
  | closes delimiter =>
      cases pending.waiting with
      | nil => rfl
      | cons frame outer =>
          by_cases same : frame.delimiter = delimiter
          · simp only [List.map_cons, Frame.movedDown, if_pos same]
            rfl
          · simp only [List.map_cons, Frame.movedDown, if_neg same]
            rfl

theorem readAll_movedDown (pending : Pending) (lines : Nat)
    (text : List Char) :
    (pending.movedDown lines).readAll text =
      ((pending.readAll text).map (·.movedDown lines)).mapError
        (·.movedDown lines) := by
  induction text generalizing pending with
  | nil => rfl
  | cons c rest inductionHypothesis =>
      rw [readAll, readAll, read_movedDown]
      cases pending.read c with
      | ok next => exact inductionHypothesis next
      | error imbalance => rfl

/-- Behind a balanced text and a line feed, a scan is where it started, with
the lines of that text above. -/
theorem readAll_feed_of_scan_eq_none {text : List Char}
    (balanced : Delimiter.scan text = none) (rest : List Char) :
    start.readAll (text ++ '\n' :: rest) =
      (start.movedDown (Text.lines text).length).readAll rest := by
  have read := (Delimiter.scan_eq_none_iff_readAll text).1 balanced
  have feedNeutral : '\n' ∉ Delimiter.characters := by decide
  rw [readAll_append read, readAll_cons_of_read (read_neutral _ feedNeutral),
    Position.next_feed_after]
  rfl

end Pending

namespace Delimiter

theorem scan_append_of_unmatchedClosing {first : List Char}
    (unmatched : (scan first).map Imbalance.kind = some .unmatchedClosing)
    (second : List Char) : scan (first ++ second) = scan first := by
  obtain ⟨imbalance, ends⟩ :=
    (kind_scan_eq_unmatchedClosing_iff first).1 unmatched
  rw [scan_of_readAll_eq_error ends,
    scan_of_readAll_eq_error (Pending.readAll_append_of_error ends second)]

theorem scan_append_feed_of_balanced {first : List Char}
    (balanced : scan first = none) (second : List Char) :
    scan (first ++ '\n' :: second) =
      (scan second).map (·.movedDown (Text.lines first).length) := by
  rw [scan, Pending.readAll_feed_of_scan_eq_none balanced,
    Pending.readAll_movedDown, scan]
  cases Pending.start.readAll second with
  | ok pending => exact Imbalance.atEnd?_movedDown pending.waiting _
  | error imbalance => rfl

end Delimiter

end Preflight
