import Preflight.Proofs.Delimiter.Imbalance
import Preflight.Proofs.Text.Place

/-!
# Where an imbalance stands

The scan counts lines and columns while it reads, and an unclosed opener is
reported long after its place was counted. The place is all the same that of
the character in the lines of the text.
-/

namespace Preflight.Delimiter

open Position (beforeText)
open Text

theorem opener_mem_characters (delimiter : Delimiter) :
    delimiter.opener ∈ characters := by
  cases delimiter <;> decide

theorem closer_mem_characters (delimiter : Delimiter) :
    delimiter.closer ∈ characters := by
  cases delimiter <;> decide

/-- What a scan reports is a delimiter of the text, at the place behind all
that stands up to it. -/
theorem exists_reported {text : List Char} {imbalance : Imbalance}
    (reported : scan text = some imbalance) :
    ∃ before rest,
      text = before ++ imbalance.character :: rest ∧
        imbalance.character ∈ characters ∧
        imbalance.position =
          beforeText.after (before ++ [imbalance.character]) := by
  cases outcome : Pending.start.readAll text with
  | error found =>
      rw [scan_of_readAll_eq_error outcome] at reported
      cases reported
      obtain ⟨before, c, rest, split, ⟨delimiter, rfl⟩, rfl, _⟩ :=
        exists_last_completable outcome
      exact ⟨before, rest, split, closer_mem_characters delimiter, rfl⟩
  | ok pending =>
      have opened := Opened.of_readAll outcome
      rw [scan_of_readAll_eq_ok outcome] at reported
      cases waits : pending.waiting with
      | nil =>
          rw [waits] at reported
          cases reported
      | cons frame outer =>
          rw [waits] at reported opened
          cases reported
          -- What waits innermost was opened behind `before`, however much
          -- was read since.
          cases opened with
          | @opener _ before inner delimiter _ _ =>
              exact ⟨before, inner, rfl, opener_mem_characters delimiter,
                rfl⟩

/-- An imbalance stands in the lines of the text at the line and the column
that are reported for it. -/
theorem exists_lines_of_reported {text : List Char} {imbalance : Imbalance}
    (reported : scan text = some imbalance) :
    ∃ above left right below,
      lines text = above ++ (left ++ imbalance.character :: right) :: below ∧
        imbalance.position = ⟨above.length + 1, left.length + 1⟩ := by
  obtain ⟨before, rest, split, isDelimiter, placed⟩ :=
    exists_reported reported
  have noFeed : imbalance.character ≠ '\n' := by
    intro feed
    rw [feed] at isDelimiter
    revert isDelimiter
    decide
  have noReturn : imbalance.character ≠ '\r' := by
    intro carriageReturn
    rw [carriageReturn] at isDelimiter
    revert isDelimiter
    decide
  rw [split, placed]
  exact exists_lines_cut noFeed noReturn before rest

/-- The line and the column of an imbalance are those of its character in the
lines of the text, whatever line endings and other characters the text
mixes. -/
theorem reported_position_in_lines {text : List Char} {imbalance : Imbalance}
    (reported : scan text = some imbalance) :
    1 ≤ imbalance.position.line ∧
      imbalance.position.line ≤ (lines text).length ∧
      ∃ content,
        (lines text)[imbalance.position.line - 1]? = some content ∧
          1 ≤ imbalance.position.column ∧
          imbalance.position.column ≤ content.length ∧
          content[imbalance.position.column - 1]? =
            some imbalance.character := by
  obtain ⟨above, left, right, below, cut, placed⟩ :=
    exists_lines_of_reported reported
  rw [cut, placed]
  exact ⟨by simp, by simp, left ++ imbalance.character :: right, by simp,
    by simp, by simp, by simp⟩

/-- Three kinds of line ending and a letter outside ASCII before an opener
that is reported behind the end of its line. -/
theorem reported_position_in_lines_mixed :
    scan "a\r\n\né\r([]\r\nb".toList = some ⟨.unclosed, '(', ⟨3, 3⟩⟩ ∧
      ∃ content,
        (lines "a\r\n\né\r([]\r\nb".toList)[2]? = some content ∧
          3 ≤ content.length ∧ content[2]? = some '(' := by
  have reported :
      scan "a\r\n\né\r([]\r\nb".toList =
        some ⟨.unclosed, '(', ⟨3, 3⟩⟩ := by decide
  obtain ⟨_, _, content, found, _, inside, character⟩ :=
    reported_position_in_lines reported
  exact ⟨reported, content, found, inside, character⟩

end Preflight.Delimiter
