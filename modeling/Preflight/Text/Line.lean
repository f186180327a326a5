/-!
# Lines of a source text

Lines are the pieces between line feeds. A carriage return at the end of a
piece belongs to the line break and is dropped, so texts with either kind of
line ending have the same lines. A text ending in a line feed has a final
empty line, and the empty text has one line.
-/

namespace Preflight.Text

/-- Put a character in front of the first piece. -/
def consToFirst (c : Char) : List (List Char) → List (List Char)
  | [] => [[c]]
  | piece :: pieces => (c :: piece) :: pieces

/-- The pieces between line feeds; there is always at least one. -/
def splitFeeds : List Char → List (List Char)
  | [] => [[]]
  | c :: rest =>
      if c = '\n' then [] :: splitFeeds rest
      else consToFirst c (splitFeeds rest)

/-- Drop one carriage return from the end of a piece, if it has one. -/
def dropReturn (piece : List Char) : List Char :=
  if piece.getLast? = some '\r' then piece.dropLast else piece

/-- The lines of a text, without their line endings. -/
def lines (text : List Char) : List (List Char) :=
  (splitFeeds text).map dropReturn

/-- How many space characters a line starts with. Other white space does not
count as indentation. -/
def leadingSpaces (line : List Char) : Nat :=
  (line.takeWhile (· = ' ')).length

theorem splitFeeds_ne_nil (text : List Char) : splitFeeds text ≠ [] := by
  cases text with
  | nil => simp [splitFeeds]
  | cons c rest =>
      unfold splitFeeds
      split
      · simp
      · cases splitFeeds rest <;> simp [consToFirst]

/-- A text has one more line than it has line feeds. -/
theorem length_lines (text : List Char) :
    (lines text).length = text.count '\n' + 1 := by
  unfold lines
  rw [List.length_map]
  induction text with
  | nil => rfl
  | cons c rest inductionHypothesis =>
      by_cases feed : c = '\n'
      · simp [splitFeeds, feed, inductionHypothesis]
      · have nonempty := splitFeeds_ne_nil rest
        simp only [splitFeeds, if_neg feed,
          List.count_cons_of_ne feed]
        cases pieces : splitFeeds rest with
        | nil => exact absurd pieces nonempty
        | cons piece more =>
            simpa [consToFirst, pieces] using inductionHypothesis

end Preflight.Text
