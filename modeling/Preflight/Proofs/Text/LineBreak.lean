import Preflight.Pattern.Reader
import Preflight.Proofs.Pattern.Literal
import Preflight.Proofs.Text.Line
import Preflight.Proofs.Text.Stop

/-!
# Lines and line breaks

A line break is what the pattern `\r?\n` matches: a line feed, with the
carriage return in front of it if there is one. Cut at its line breaks from the
left, a text has one list of pieces. The lines of the text are these pieces,
but for the last one, behind which there is no line break: it loses a carriage
return at its end all the same.
-/

namespace Preflight

/-! ## Cutting a text at a pattern -/

namespace Pattern

/-- The match of a pattern behind a piece of a text is the first one, if none
starts inside the piece. What stands in front of the piece was cut off
before. -/
structure IsFirstMatch
    (pattern : Pattern) (before piece found behind : List Char) : Prop where
  isMatch : pattern.Matches (before ++ piece) found behind
  isFirst :
    ∀ front other rest, piece ++ found ++ behind = front ++ other ++ rest →
      pattern.Matches (before ++ front) other rest →
        piece.length ≤ front.length

/-- The pieces of a text that is cut at every match of a pattern, from the
left. -/
inductive Cuts (pattern : Pattern) :
    (before text : List Char) → List (List Char) → Prop
  | last {before text : List Char} :
      (∀ front other rest, text = front ++ other ++ rest →
        ¬ pattern.Matches (before ++ front) other rest) →
      Cuts pattern before text [text]
  | cut {before piece found behind : List Char} {pieces : List (List Char)} :
      pattern.IsFirstMatch before piece found behind →
      Cuts pattern (before ++ piece ++ found) behind pieces →
      Cuts pattern before (piece ++ found ++ behind) (piece :: pieces)

/-- What the text `\r?\n` reads as. -/
def lineBreak : Pattern :=
  .sequence (.repeated 0 (some 1) (.one (.single '\r')))
    (.sequence (.one (.single '\n')) .empty)

theorem ofText_lineBreak : ofText "\\r?\\n".toList = .ok lineBreak := by
  rfl

theorem matches_lineBreak_iff {before piece behind : List Char} :
    lineBreak.Matches before piece behind ↔
      piece = ['\n'] ∨ piece = ['\r', '\n'] := by
  constructor
  · rintro ⟨returns, _, rfl, ⟨extra, atMost, found⟩, _, _, rfl,
      ⟨c, rfl, isFeed⟩, rfl⟩
    rw [CharClass.contains_single, beq_iff_eq] at isFeed
    rw [times_one] at found
    have few : extra ≤ 1 := atMost 1 rfl
    cases returns with
    | nil => exact Or.inl (by rw [← isFeed]; rfl)
    | cons d more =>
        have isReturn := found.2 d List.mem_cons_self
        rw [CharClass.contains_single, beq_iff_eq] at isReturn
        have single : more = [] := by
          have length := found.1
          rw [List.length_cons] at length
          exact List.eq_nil_of_length_eq_zero (by omega)
        exact Or.inr (by rw [← isFeed, ← isReturn, single]; rfl)
  · have feed (before behind : List Char) :
        (Pattern.sequence (.one (.single '\n')) .empty).Matches before ['\n']
          behind :=
      ⟨['\n'], [], rfl, ⟨'\n', rfl, rfl⟩, rfl⟩
    rintro (rfl | rfl)
    · exact ⟨[], ['\n'], rfl, ⟨0, by simp, rfl⟩, feed _ _⟩
    · have one : (Matches (.one (.single '\r'))).times 1 before ['\r']
          (['\n'] ++ behind) := times_one.2 ⟨rfl, by simp⟩
      exact ⟨['\r'], ['\n'], rfl, ⟨1, by simp, one⟩, feed _ _⟩

end Pattern

namespace Text

open Pattern

/-! ## Pieces between line feeds -/

/-- The last piece ends as the text does, unless the text ends in a line
feed. -/
theorem getLast?_last_piece {text last : List Char} {above : List (List Char)}
    (split : splitFeeds text = above ++ [last]) (c : Char) :
    last.getLast? = some c ↔ text.getLast? = some c ∧ c ≠ '\n' := by
  rcases List.eq_nil_or_concat text with rfl | ⟨front, d, rfl⟩
  · have alone : [] ++ [[]] = above ++ [last] := split
    have isEmpty := (List.append_inj' alone rfl).2
    cases isEmpty
    simp
  · rw [List.concat_eq_append] at split ⊢
    by_cases feed : d = '\n'
    · subst feed
      rw [splitFeeds_append_feed] at split
      have isEmpty := (List.append_inj' split rfl).2
      cases isEmpty
      constructor
      · intro ends
        cases ends
      · rintro ⟨ends, notFeed⟩
        rw [List.getLast?_concat] at ends
        exact absurd (Option.some.inj ends).symm notFeed
    · obtain ⟨frontAbove, frontLast, frontSplit⟩ :=
        exists_splitFeeds_eq_concat front
      have lastSplit : splitFeeds [d] = [d] :: [] :=
        splitFeeds_cons_of_ne feed rfl
      rw [splitFeeds_append frontSplit lastSplit] at split
      have isLast := (List.append_inj' split rfl).2
      cases isLast
      rw [List.getLast?_concat, List.getLast?_concat]
      constructor
      · intro ends
        exact ⟨ends, (Option.some.inj ends) ▸ feed⟩
      · exact fun ends => ends.1

/-! ## The first line break of a text -/

/-- A line without line feeds, in front of a line feed, ends where its first
line break starts. -/
theorem exists_isFirstMatch_lineBreak {line : List Char}
    (noFeed : '\n' ∉ line) (before behind : List Char) :
    ∃ found,
      dropReturn line ++ found = line ++ ['\n'] ∧
        lineBreak.IsFirstMatch before (dropReturn line) found behind := by
  have noneInside :
      ∀ {found : List Char}, dropReturn line ++ found = line ++ ['\n'] →
        ∀ front other rest,
          dropReturn line ++ found ++ behind = front ++ other ++ rest →
            lineBreak.Matches (before ++ front) other rest →
              (dropReturn line).length ≤ front.length := by
    intro found ending front other rest same isMatch
    have noLonger := length_dropReturn_le line
    rw [ending, List.append_assoc, List.singleton_append] at same
    rcases matches_lineBreak_iff.1 isMatch with rfl | rfl
    · rw [List.append_assoc, List.singleton_append] at same
      have starts := prefix_of_append_stop noFeed same
      exact Nat.le_trans noLonger starts.length_le
    · have regrouped :
          front ++ ['\r', '\n'] ++ rest = (front ++ ['\r']) ++ '\n' :: rest := by
        simp
      rw [regrouped] at same
      have starts := prefix_of_append_stop noFeed same
      rcases List.prefix_concat_iff.1 starts with rfl | inFront
      · exact Nat.le_of_eq (by rw [dropReturn_concat_return])
      · exact Nat.le_trans noLonger inFront.length_le
  by_cases ends : line.getLast? = some '\r'
  · have ending : dropReturn line ++ ['\r', '\n'] = line ++ ['\n'] := by
      obtain ⟨piece, rfl⟩ := List.getLast?_eq_some_iff.1 ends
      rw [dropReturn_concat_return, List.append_assoc, List.singleton_append]
    exact ⟨_, ending, matches_lineBreak_iff.2 (Or.inr rfl), noneInside ending⟩
  · have ending : dropReturn line ++ ['\n'] = line ++ ['\n'] := by
      rw [dropReturn, if_neg ends]
    exact ⟨_, ending, matches_lineBreak_iff.2 (Or.inl rfl), noneInside ending⟩

/-- Of two first line breaks behind pieces of the same text, both are the same
and behind the same piece. -/
theorem isFirstMatch_lineBreak_unique
    {before piece found behind other otherFound rest : List Char}
    (firstMatch : lineBreak.IsFirstMatch before piece found behind)
    (otherMatch : lineBreak.IsFirstMatch before other otherFound rest)
    (same : piece ++ found ++ behind = other ++ otherFound ++ rest) :
    piece = other ∧ found = otherFound ∧ behind = rest := by
  have sameLength : piece.length = other.length :=
    Nat.le_antisymm
      (firstMatch.isFirst _ _ _ same otherMatch.isMatch)
      (otherMatch.isFirst _ _ _ same.symm firstMatch.isMatch)
  rw [List.append_assoc, List.append_assoc] at same
  obtain ⟨rfl, sameRest⟩ := List.append_inj same sameLength
  rcases matches_lineBreak_iff.1 firstMatch.isMatch with rfl | rfl <;>
    rcases matches_lineBreak_iff.1 otherMatch.isMatch with rfl | rfl
  · exact ⟨rfl, rfl, (List.cons.inj sameRest).2⟩
  · exact absurd (List.cons.inj sameRest).1 (by decide)
  · exact absurd (List.cons.inj sameRest).1 (by decide)
  · exact ⟨rfl, rfl, List.append_cancel_left sameRest⟩

/-! ## Cutting a text at its line breaks -/

theorem not_matches_lineBreak {text : List Char} (noFeed : '\n' ∉ text)
    {before front other rest : List Char} (same : text = front ++ other ++ rest) :
    ¬ lineBreak.Matches (before ++ front) other rest := by
  intro isMatch
  have feed : '\n' ∈ other := by
    rcases matches_lineBreak_iff.1 isMatch with rfl | rfl <;> decide
  rw [same] at noFeed
  exact noFeed
    (List.mem_append_left rest (List.mem_append_right front feed))

/-- A text can be cut at its line breaks: into what is between its line feeds,
without the carriage returns in front of them. -/
theorem cuts_lineBreak {text last : List Char} {above : List (List Char)}
    (split : splitFeeds text = above ++ [last]) (before : List Char) :
    lineBreak.Cuts before text (above.map dropReturn ++ [last]) := by
  by_cases feed : '\n' ∈ text
  · obtain ⟨line, rest, rfl, noFeed⟩ := List.eq_append_cons_of_mem feed
    rw [splitFeeds_append_feed, splitFeeds_of_not_mem noFeed,
      List.singleton_append] at split
    cases above with
    | nil => exact absurd (List.cons.inj split).2 (splitFeeds_ne_nil rest)
    | cons piece more =>
        obtain ⟨rfl, restSplit⟩ := List.cons.inj split
        obtain ⟨found, ending, firstMatch⟩ :=
          exists_isFirstMatch_lineBreak noFeed before rest
        have regrouped :
            line ++ '\n' :: rest = dropReturn line ++ found ++ rest := by
          rw [ending, List.append_assoc, List.singleton_append]
        rw [regrouped]
        exact Cuts.cut firstMatch (cuts_lineBreak restSplit _)
  · rw [splitFeeds_of_not_mem feed] at split
    cases above with
    | nil =>
        cases split
        exact Cuts.last fun _ _ _ => not_matches_lineBreak feed
    | cons piece more =>
        have tooLong := (List.cons.inj split).2
        simp at tooLong
termination_by text.length

theorem cuts_lineBreak_unique {before text other : List Char}
    {pieces others : List (List Char)} (cuts : lineBreak.Cuts before text pieces)
    (otherCuts : lineBreak.Cuts before other others) (same : text = other) :
    pieces = others := by
  induction cuts generalizing other others with
  | last noMatch =>
      cases otherCuts with
      | last => rw [same]
      | cut firstMatch => exact absurd firstMatch.isMatch (noMatch _ _ _ same)
  | cut firstMatch _ inductionHypothesis =>
      cases otherCuts with
      | last noMatch =>
          exact absurd firstMatch.isMatch (noMatch _ _ _ same.symm)
      | cut otherMatch otherRest =>
          obtain ⟨rfl, rfl, sameRest⟩ :=
            isFirstMatch_lineBreak_unique firstMatch otherMatch same
          rw [inductionHypothesis otherRest sameRest]

/-- `\r?\n` reads as the pattern of a line break. Every text is cut at its line
breaks in one way, and its lines are the pieces, except that the last one loses
a carriage return at its end. So they are the pieces exactly when the text does
not end in a carriage return. The last piece is empty exactly when the text is
empty or ends in a line feed, and there is one line more than there are line
feeds. -/
theorem lines_are_pieces_but_for_last_return (text : List Char) :
    ofText "\\r?\\n".toList = .ok lineBreak ∧
      ∃ above last,
        (∀ pieces, lineBreak.Cuts [] text pieces ↔ pieces = above ++ [last]) ∧
          lines text = above ++ [dropReturn last] ∧
          (lines text = above ++ [last] ↔ text.getLast? ≠ some '\r') ∧
          (last = [] ↔ ∀ c ∈ text.getLast?, c = '\n') ∧
          (lines text).length = text.count '\n' + 1 := by
  refine ⟨ofText_lineBreak, ?_⟩
  obtain ⟨above, last, split⟩ := exists_splitFeeds_eq_concat text
  have cuts := cuts_lineBreak split []
  have isLines : lines text = above.map dropReturn ++ [dropReturn last] := by
    rw [lines, split, List.map_append]
    rfl
  refine ⟨above.map dropReturn, last, ?_, isLines, ?_, ?_, length_lines text⟩
  · intro pieces
    constructor
    · intro cutsToo
      exact cuts_lineBreak_unique cutsToo cuts rfl
    · rintro rfl
      exact cuts
  · rw [isLines, List.append_right_inj, List.singleton_inj,
      dropReturn_eq_self_iff, ne_eq, getLast?_last_piece split]
    simp
  · rw [← List.getLast?_eq_none_iff, Option.eq_none_iff_forall_ne_some]
    simp only [ne_eq, getLast?_last_piece split, not_and,
      Decidable.not_not, Option.mem_def]

/-- A carriage return at the end of a text belongs to the only piece of the
text, and its only line does not have it. -/
theorem lines_lose_last_return :
    lineBreak.Cuts [] "a\r".toList ["a\r".toList] ∧
      lines "a\r".toList = ["a".toList] ∧
      lines "a\r".toList ≠ ["a\r".toList] := by
  refine ⟨Cuts.last ?_, by decide, by decide⟩
  intro front other rest same
  exact not_matches_lineBreak (by decide) same

end Text

end Preflight
