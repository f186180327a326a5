import Mathlib.Data.List.Induction
import Preflight.Position
import Preflight.Proofs.Text.Line

/-!
# Places and lines

A place is counted character by character, while lines come from cutting the
text. The two agree: behind a text the place is the end of its last piece, and
a character that is no part of a line ending stands in the lines at the line
and the column that its place tells.
-/

namespace Preflight.Text

open Position (beforeText)

theorem exists_splitFeeds_after (text : List Char) :
    ∃ above last,
      splitFeeds text = above ++ [last] ∧
        beforeText.after text = ⟨above.length + 1, last.length⟩ := by
  induction text using List.reverseRecOn with
  | nil => exact ⟨[], [], rfl, rfl⟩
  | append_singleton before c inductionHypothesis =>
      obtain ⟨above, last, beforeSplit, placed⟩ := inductionHypothesis
      rw [Position.after_append, placed]
      by_cases feed : c = '\n'
      · subst feed
        have feedSplit : splitFeeds ['\n'] = [] :: [[]] := rfl
        refine ⟨above ++ [last], [], ?_, ?_⟩
        · rw [splitFeeds_append beforeSplit feedSplit]
          simp
        · simp [Position.next]
      · have charSplit : splitFeeds [c] = [c] :: [] :=
          splitFeeds_cons_of_ne feed rfl
        refine ⟨above, last ++ [c], ?_, ?_⟩
        · rw [splitFeeds_append beforeSplit charSplit]
        · simp [Position.next, feed]

/-- The lines of a text, cut at one of its characters. The place of the
character counts the lines above it and the characters to its left. -/
theorem exists_lines_cut {c : Char} (noFeed : c ≠ '\n') (noReturn : c ≠ '\r')
    (before rest : List Char) :
    ∃ above left right below,
      lines (before ++ c :: rest) = above ++ (left ++ c :: right) :: below ∧
        beforeText.after (before ++ [c]) =
          ⟨above.length + 1, left.length + 1⟩ := by
  obtain ⟨above, left, beforeSplit, placed⟩ := exists_splitFeeds_after before
  obtain ⟨right, below, restSplit⟩ :=
    List.exists_cons_of_ne_nil (splitFeeds_ne_nil rest)
  have charSplit : splitFeeds (c :: rest) = (c :: right) :: below :=
    splitFeeds_cons_of_ne noFeed restSplit
  refine ⟨above.map dropReturn, left, dropReturn right,
    below.map dropReturn, ?_, ?_⟩
  · have nonempty : c :: right ≠ [] := List.cons_ne_nil c right
    rw [lines, splitFeeds_append beforeSplit charSplit, List.map_append,
      List.map_cons, dropReturn_append nonempty, dropReturn_cons noReturn]
  · rw [Position.after_append, placed]
    simp [Position.next, noFeed]

end Preflight.Text
