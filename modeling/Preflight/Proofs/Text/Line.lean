import Preflight.Text.Line

/-!
# The shape of a line

The indentation of a line is its longest beginning of space characters. A
line ending takes at most one carriage return from the end of a piece and
leaves everything before it as it is.
-/

namespace Preflight.Text

/-! ## Pieces between line feeds -/

theorem splitFeeds_feed (rest : List Char) :
    splitFeeds ('\n' :: rest) = [] :: splitFeeds rest := by
  rw [splitFeeds, if_pos rfl]

theorem splitFeeds_cons_of_ne {c : Char} {rest piece : List Char}
    {pieces : List (List Char)} (noFeed : c ≠ '\n')
    (restSplit : splitFeeds rest = piece :: pieces) :
    splitFeeds (c :: rest) = (c :: piece) :: pieces := by
  rw [splitFeeds, if_neg noFeed, restSplit, consToFirst]

theorem splitFeeds_of_not_mem {text : List Char} (noFeed : '\n' ∉ text) :
    splitFeeds text = [text] := by
  induction text with
  | nil => rfl
  | cons c rest inductionHypothesis =>
      rw [List.mem_cons, not_or] at noFeed
      exact splitFeeds_cons_of_ne (Ne.symm noFeed.1)
        (inductionHypothesis noFeed.2)

/-- Where two texts meet, the last piece of the one and the first piece of the
other are one piece. -/
theorem splitFeeds_append {first second last head : List Char}
    {above below : List (List Char)}
    (firstSplit : splitFeeds first = above ++ [last])
    (secondSplit : splitFeeds second = head :: below) :
    splitFeeds (first ++ second) = above ++ (last ++ head) :: below := by
  induction first generalizing above last with
  | nil =>
      cases above with
      | nil =>
          cases firstSplit
          exact secondSplit
      | cons piece pieces => simp [splitFeeds] at firstSplit
  | cons c rest inductionHypothesis =>
      obtain ⟨piece, pieces, restSplit⟩ :=
        List.exists_cons_of_ne_nil (splitFeeds_ne_nil rest)
      by_cases feed : c = '\n'
      · subst feed
        rw [splitFeeds_feed] at firstSplit
        cases above with
        | nil => simp [restSplit] at firstSplit
        | cons firstPiece more =>
            obtain ⟨rfl, moreSplit⟩ := List.cons.inj firstSplit
            rw [List.cons_append, splitFeeds_feed,
              inductionHypothesis moreSplit]
            rfl
      · rw [splitFeeds_cons_of_ne feed restSplit] at firstSplit
        -- The character goes to the piece that meets the other text when the
        -- rest is one piece, and to the first of several otherwise.
        cases above with
        | nil =>
            obtain ⟨rfl, rfl⟩ := List.cons.inj firstSplit
            have onePiece : splitFeeds rest = [] ++ [piece] := restSplit
            have joined := inductionHypothesis onePiece
            exact splitFeeds_cons_of_ne feed joined
        | cons firstPiece more =>
            obtain ⟨rfl, rfl⟩ := List.cons.inj firstSplit
            have manyPieces : splitFeeds rest = (piece :: more) ++ [last] :=
              restSplit
            have joined := inductionHypothesis manyPieces
            exact splitFeeds_cons_of_ne feed joined

/-- There is a last piece: what stands behind the last line feed. -/
theorem exists_splitFeeds_eq_concat (text : List Char) :
    ∃ above last, splitFeeds text = above ++ [last] := by
  rcases List.eq_nil_or_concat (splitFeeds text) with
    nothing | ⟨above, last, split⟩
  · exact absurd nothing (splitFeeds_ne_nil text)
  · exact ⟨above, last, by rw [split, List.concat_eq_append]⟩

theorem splitFeeds_append_feed (first second : List Char) :
    splitFeeds (first ++ '\n' :: second) =
      splitFeeds first ++ splitFeeds second := by
  obtain ⟨above, last, split⟩ := exists_splitFeeds_eq_concat first
  rw [splitFeeds_append split (splitFeeds_feed second), split,
    List.append_nil, ← List.append_cons]

/-! ## Line endings -/

theorem dropReturn_concat_return (piece : List Char) :
    dropReturn (piece ++ ['\r']) = piece := by
  rw [dropReturn, if_pos List.getLast?_concat, List.dropLast_concat]

theorem length_dropReturn_le (piece : List Char) :
    (dropReturn piece).length ≤ piece.length := by
  unfold dropReturn
  by_cases ends : piece.getLast? = some '\r'
  · rw [if_pos ends, List.length_dropLast]
    exact Nat.sub_le _ _
  · exact Nat.le_of_eq (by rw [if_neg ends])

theorem dropReturn_eq_self_iff {piece : List Char} :
    dropReturn piece = piece ↔ piece.getLast? ≠ some '\r' := by
  constructor
  · intro same ends
    obtain ⟨front, rfl⟩ := List.getLast?_eq_some_iff.1 ends
    rw [dropReturn_concat_return] at same
    have lengths := congrArg List.length same
    simp at lengths
  · intro noReturn
    rw [dropReturn, if_neg noReturn]

theorem dropReturn_of_not_mem {piece : List Char} (noReturn : '\r' ∉ piece) :
    dropReturn piece = piece := by
  refine dropReturn_eq_self_iff.2 ?_
  intro ends
  exact noReturn (List.mem_of_getLast? ends)

theorem dropReturn_append {first second : List Char}
    (nonempty : second ≠ []) :
    dropReturn (first ++ second) = first ++ dropReturn second := by
  have lastOfSecond : (first ++ second).getLast? = second.getLast? := by
    rw [List.getLast?_append, List.getLast?_eq_some_getLast nonempty]
    rfl
  unfold dropReturn
  rw [lastOfSecond]
  split
  · exact List.dropLast_append_of_ne_nil nonempty
  · rfl

theorem dropReturn_cons {c : Char} (noReturn : c ≠ '\r')
    (piece : List Char) : dropReturn (c :: piece) = c :: dropReturn piece := by
  cases piece with
  | nil => simp [dropReturn, noReturn]
  | cons first more =>
      have nonempty : first :: more ≠ [] := List.cons_ne_nil first more
      have dropped : dropReturn ([c] ++ first :: more) = _ :=
        dropReturn_append nonempty
      exact dropped

/-! ## Lines, character by character -/

theorem lines_feed (rest : List Char) :
    lines ('\n' :: rest) = [] :: lines rest := by
  rw [lines, splitFeeds_feed]
  rfl

theorem lines_return_feed (rest : List Char) :
    lines ('\r' :: '\n' :: rest) = [] :: lines rest := by
  have split :
      splitFeeds ('\r' :: '\n' :: rest) = ['\r'] :: splitFeeds rest :=
    splitFeeds_cons_of_ne (by decide) (splitFeeds_feed rest)
  rw [lines, split]
  rfl

theorem lines_cons {c : Char} {rest line : List Char}
    {more : List (List Char)} (noFeed : c ≠ '\n') (noReturn : c ≠ '\r')
    (restLines : lines rest = line :: more) :
    lines (c :: rest) = (c :: line) :: more := by
  obtain ⟨piece, pieces, split⟩ :=
    List.exists_cons_of_ne_nil (splitFeeds_ne_nil rest)
  rw [lines, split] at restLines
  obtain ⟨rfl, rfl⟩ := List.cons.inj restLines
  rw [lines, splitFeeds_cons_of_ne noFeed split, List.map_cons,
    dropReturn_cons noReturn]

/-- A line feed between two texts ends the last line of the first, even if
that line ends in a carriage return. -/
theorem lines_append_feed (first second : List Char) :
    lines (first ++ '\n' :: second) = lines first ++ lines second := by
  rw [lines, splitFeeds_append_feed, List.map_append, lines, lines]

theorem lines_ne_nil (text : List Char) : lines text ≠ [] := by
  intro none
  exact splitFeeds_ne_nil text (List.map_eq_nil_iff.1 none)

/-! ## Indentation -/

/-- A line is its leading spaces and a rest that starts with no space. -/
theorem eq_leadingSpaces_append (line : List Char) :
    ∃ rest,
      line = List.replicate (leadingSpaces line) ' ' ++ rest ∧
        rest.head? ≠ some ' ' := by
  have spaces :
      line.takeWhile (· = ' ') =
        List.replicate (leadingSpaces line) ' ' := by
    rw [List.eq_replicate_iff]
    refine ⟨rfl, ?_⟩
    intro c member
    have isSpace := List.all_eq_true.1 List.all_takeWhile c member
    exact of_decide_eq_true isSpace
  refine ⟨line.dropWhile (· = ' '), ?_, ?_⟩
  · rw [← spaces, List.takeWhile_append_dropWhile]
  · intro startsWithSpace
    have startsWithOther := List.head?_dropWhile_not (· = ' ') line
    rw [startsWithSpace] at startsWithOther
    simp at startsWithOther

/-- No other number of spaces leaves a rest that starts with no space. -/
theorem leadingSpaces_replicate_append {width : Nat} {rest : List Char}
    (startsWithOther : rest.head? ≠ some ' ') :
    leadingSpaces (List.replicate width ' ' ++ rest) = width := by
  have noneTaken : rest.takeWhile (· = ' ') = [] := by
    cases rest with
    | nil => rfl
    | cons c more =>
        have other : c ≠ ' ' := by simpa using startsWithOther
        simp [other]
  rw [leadingSpaces,
    List.takeWhile_append_of_pos (by simp +contextual), noneTaken]
  simp

end Preflight.Text
