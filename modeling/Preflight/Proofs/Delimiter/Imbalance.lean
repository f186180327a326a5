import Preflight.Proofs.Delimiter.Completion

/-!
# What an imbalance says

The two kinds of imbalance, read as statements about the text:

* an unmatched closer is the first character behind which no continuation
  balances the text, and whatever follows leaves the report as it is;
* an unclosed opener is the innermost one that waits. What stands behind it
  balances, and exactly one text of closers repairs the whole.
-/

namespace Preflight.Delimiter

open Position (beforeText)

/-! ## Unmatched closers -/

/-- A scan that ends reports the closer behind which completing is no longer
possible. -/
theorem exists_last_completable {text : List Char} {imbalance : Imbalance}
    (ends : Pending.start.readAll text = .error imbalance) :
    ∃ before c rest,
      text = before ++ c :: rest ∧
        IsCloser c ∧
        imbalance =
          ⟨.unmatchedClosing, c, beforeText.after (before ++ [c])⟩ ∧
        Completable before ∧ ¬ Completable (before ++ [c]) := by
  obtain ⟨before, c, rest, between, split, read, misread⟩ :=
    Pending.exists_misfit ends
  obtain ⟨⟨delimiter, isCloser, _⟩, found⟩ :=
    Pending.imbalance_of_read misread
  have readsBefore : Completable before :=
    (completable_iff_readAll before).2 ⟨between, read⟩
  have endsBehind :
      Pending.start.readAll (before ++ [c]) = .error imbalance := by
    rw [Pending.readAll_append read]
    simp only [Pending.readAll, misread]
  have lost : ¬ Completable (before ++ [c]) :=
    (not_completable_iff_readAll (before ++ [c])).2 ⟨imbalance, endsBehind⟩
  have placed :
      between.place.next c = beforeText.after (before ++ [c]) := by
    rw [Pending.place_of_readAll read, Position.after_append]
    rfl
  rw [placed] at found
  exact ⟨before, c, rest, split, ⟨delimiter, isCloser⟩, found,
    readsBefore, lost⟩

/-- An unmatched closer is reported exactly when no continuation balances the
text. It stands at the one offset behind which completing is no longer
possible, and the report is the same for every continuation. -/
theorem unmatchedClosing_first_and_final (text : List Char) :
    ((scan text).map Imbalance.kind = some .unmatchedClosing ↔
        ¬ ∃ suffix, scan (text ++ suffix) = none) ∧
      ∀ imbalance, scan text = some imbalance →
        imbalance.kind = .unmatchedClosing →
          ∃ offset,
            text[offset]? = some imbalance.character ∧
              Position.ofOffset text offset = imbalance.position ∧
              (∀ other < text.length,
                Position.ofOffset text other = imbalance.position →
                  other = offset) ∧
              IsCloser imbalance.character ∧
              (∀ length,
                Completable (text.take length) ↔ length ≤ offset) ∧
              ∀ suffix, scan (text ++ suffix) = some imbalance := by
  constructor
  · rw [kind_scan_eq_unmatchedClosing_iff, ← not_completable_iff_readAll]
    rfl
  · intro imbalance reported unmatched
    have kindReported :
        (scan text).map Imbalance.kind = some .unmatchedClosing := by
      rw [reported, Option.map_some, unmatched]
    obtain ⟨found, ends⟩ :=
      (kind_scan_eq_unmatchedClosing_iff text).1 kindReported
    have sameReport : found = imbalance := by
      have foundReported := scan_of_readAll_eq_error ends
      rw [reported] at foundReported
      exact (Option.some.inj foundReported).symm
    subst sameReport
    obtain ⟨before, c, rest, rfl, isCloser, rfl, completable, lost⟩ :=
      exists_last_completable ends
    refine ⟨before.length, ?_, ?_, ?_, isCloser, ?_, ?_⟩
    · simp
    · exact Position.ofOffset_append_cons before rest c
    · intro other inside samePlace
      have beforeInside :
          before.length < (before ++ c :: rest).length := by simp
      rw [← Position.ofOffset_append_cons before rest c] at samePlace
      exact Position.eq_of_ofOffset_eq inside beforeInside samePlace
    · exact completable_take_iff completable lost
    · intro suffix
      exact scan_of_readAll_eq_error
        (Pending.readAll_append_of_error ends suffix)

/-- Crossed pairs over two lines: nothing can be done once the fifth character
is written. -/
theorem unmatchedClosing_first_and_final_crossed :
    scan ['(', '\n', '[', 'b', ')', ']'] =
        some ⟨.unmatchedClosing, ')', ⟨2, 3⟩⟩ ∧
      (∀ length,
        Completable (['(', '\n', '[', 'b', ')', ']'].take length) ↔
          length ≤ 4) ∧
      ∀ suffix,
        scan (['(', '\n', '[', 'b', ')', ']'] ++ suffix) =
          some ⟨.unmatchedClosing, ')', ⟨2, 3⟩⟩ := by
  have reported :
      scan ['(', '\n', '[', 'b', ')', ']'] =
        some ⟨.unmatchedClosing, ')', ⟨2, 3⟩⟩ := by decide
  obtain ⟨offset, _, _, only, _, earliest, final⟩ :=
    (unmatchedClosing_first_and_final _).2 _ reported rfl
  have fifth : 4 = offset := only 4 (by decide) (by decide)
  subst fifth
  exact ⟨reported, earliest, final⟩

/-! ## Unclosed openers -/

/-- A text is cut at a character when what stands behind it balances and what
stands before it has no unmatched closer. -/
structure CutsAt (text : List Char) (c : Char)
    (before behind : List Char) : Prop where
  cut : text = before ++ [c] ++ behind
  balanced : scan behind = none
  unended :
    (scan before).map Imbalance.kind ≠ some .unmatchedClosing

/-- A text of closers that balances another when it follows. -/
structure Repairs (text repair : List Char) : Prop where
  closers : ∀ c ∈ repair, IsCloser c
  balanced : scan (text ++ repair) = none

/-- The texts without an unmatched closer are those that a scan under way can
have behind it. -/
theorem kind_scan_ne_unmatchedClosing_iff_opened (text : List Char) :
    (scan text).map Imbalance.kind ≠ some .unmatchedClosing ↔
      ∃ waiting, Opened waiting text := by
  rw [Ne, kind_scan_eq_unmatchedClosing_iff]
  constructor
  · intro endless
    cases outcome : Pending.start.readAll text with
    | ok pending =>
        exact ⟨pending.waiting, Opened.of_readAll outcome⟩
    | error imbalance => exact absurd ⟨imbalance, outcome⟩ endless
  · rintro ⟨waiting, opened⟩ ⟨imbalance, ends⟩
    rw [opened.readAll] at ends
    cases ends

theorem cutsAt_opener_iff {text before behind : List Char}
    {delimiter : Delimiter} :
    CutsAt text delimiter.opener before behind ↔
      text = before ++ delimiter.opener :: behind ∧
        (∃ outer, Opened outer before) ∧ Nested behind := by
  constructor
  · rintro ⟨cut, balanced, unended⟩
    rw [kind_scan_ne_unmatchedClosing_iff_opened] at unended
    rw [scan_eq_none_iff_readAll, readAll_eq_ok_iff_nested] at balanced
    exact ⟨by simpa using cut, unended, balanced⟩
  · rintro ⟨cut, unended, nested⟩
    refine ⟨by simpa using cut, ?_, ?_⟩
    · rw [scan_eq_none_iff_readAll, readAll_eq_ok_iff_nested]
      exact nested
    · rwa [kind_scan_ne_unmatchedClosing_iff_opened]

theorem exists_cutsAt {text : List Char} {frame : Frame}
    {outer : List Frame} (opened : Opened (frame :: outer) text) :
    ∃ before behind,
      CutsAt text frame.delimiter.opener before behind ∧
        Position.ofOffset text before.length = frame.position := by
  cases opened with
  | @opener _ before behind delimiter beforeOpened nested =>
      have cuts :
          CutsAt (before ++ delimiter.opener :: behind) delimiter.opener
            before behind :=
        cutsAt_opener_iff.2 ⟨rfl, ⟨outer, beforeOpened⟩, nested⟩
      exact ⟨before, behind, cuts,
        Position.ofOffset_append_cons before behind delimiter.opener⟩

/-- A cut at an opener is a cut at the innermost opener that waits. -/
theorem CutsAt.position_eq {text before behind : List Char}
    {delimiter : Delimiter} {frame : Frame} {outer : List Frame}
    (cuts : CutsAt text delimiter.opener before behind)
    (opened : Opened (frame :: outer) text) :
    frame.position = beforeText.after (before ++ [delimiter.opener]) := by
  obtain ⟨cut, ⟨otherOuter, beforeOpened⟩, nested⟩ :=
    cutsAt_opener_iff.1 cuts
  have cutOpened := Opened.opener delimiter beforeOpened nested
  rw [← cut] at cutOpened
  have sameRun := opened.readAll.symm.trans cutOpened.readAll
  simp only [Except.ok.injEq, Pending.mk.injEq, List.cons.injEq] at sameRun
  rw [sameRun.1.1]

theorem CutsAt.unique {text before behind otherBefore otherBehind : List Char}
    {delimiter : Delimiter} {frame : Frame} {outer : List Frame}
    (opened : Opened (frame :: outer) text)
    (cuts : CutsAt text delimiter.opener before behind)
    (otherCuts : CutsAt text delimiter.opener otherBefore otherBehind) :
    otherBefore = before ∧ otherBehind = behind := by
  have samePlace :
      beforeText.after (otherBefore ++ [delimiter.opener]) =
        beforeText.after (before ++ [delimiter.opener]) :=
    (otherCuts.position_eq opened).symm.trans (cuts.position_eq opened)
  have sameBeginning :
      otherBefore ++ [delimiter.opener] = before ++ [delimiter.opener] :=
    Position.eq_of_after_eq ⟨otherBehind, otherCuts.cut.symm⟩
      ⟨behind, cuts.cut.symm⟩ samePlace
  have sameText := otherCuts.cut.symm.trans cuts.cut
  rw [sameBeginning] at sameText
  exact ⟨List.append_cancel_right sameBeginning,
    List.append_cancel_left sameText⟩

/-- The closers of what waits repair a text, and nothing else does. -/
theorem repairs_iff {text repair : List Char} {waiting : List Frame}
    (opened : Opened waiting text) :
    Repairs text repair ↔ repair = closing waiting := by
  constructor
  · rintro ⟨closers, balanced⟩
    rw [scan_eq_none_iff_readAll, Pending.readAll_append opened.readAll]
      at balanced
    exact eq_closing_of_readAll closers balanced
  · rintro rfl
    exact ⟨fun c member => isCloser_of_mem_closing member,
      scan_append_closing opened.readAll⟩

/-- The opener that is reported as unclosed is the one character of its kind
at which the text can be cut. One text of closers repairs the whole: it begins
with the partner of that opener and has a closer for each opener that
waits. -/
theorem unclosed_innermost_and_repair {text : List Char} {opener : Char}
    {position : Position}
    (unclosed : scan text = some ⟨.unclosed, opener, position⟩) :
    (∃ before behind,
        CutsAt text opener before behind ∧
          Position.ofOffset text before.length = position ∧
          ∀ otherBefore otherBehind,
            CutsAt text opener otherBefore otherBehind →
              otherBefore = before ∧ otherBehind = behind) ∧
      ∃ (repair : List Char) (delimiter : Delimiter) (pending : Pending),
        Repairs text repair ∧
          (∀ other, Repairs text other → other = repair) ∧
          opener = delimiter.opener ∧
          repair.head? = some delimiter.closer ∧
          Pending.start.readAll text = .ok pending ∧
          repair.length = pending.waiting.length := by
  obtain ⟨delimiter, outer, rfl, read⟩ := scan_eq_unclosed_iff.1 unclosed
  have opened := readAll_eq_ok_iff_opened.1 read
  constructor
  · obtain ⟨before, behind, cuts, placed⟩ := exists_cutsAt opened
    refine ⟨before, behind, cuts, placed, ?_⟩
    intro otherBefore otherBehind otherCuts
    exact CutsAt.unique opened cuts otherCuts
  · refine ⟨closing (⟨delimiter, position⟩ :: outer), delimiter, _,
      (repairs_iff opened).2 rfl, ?_, rfl, rfl, read, ?_⟩
    · intro other repairs
      exact (repairs_iff opened).1 repairs
    · simp [closing]

/-- Two openers wait, and a balanced pair stands behind the inner one. -/
theorem unclosed_innermost_and_repair_twofold :
    scan ['(', '\n', '[', '\x7b', '\x7d'] =
        some ⟨.unclosed, '[', ⟨2, 1⟩⟩ ∧
      (∀ before behind,
        CutsAt ['(', '\n', '[', '\x7b', '\x7d'] '[' before behind ↔
          before = ['(', '\n'] ∧ behind = ['\x7b', '\x7d']) ∧
      ∀ repair,
        Repairs ['(', '\n', '[', '\x7b', '\x7d'] repair ↔
          repair = [']', ')'] := by
  have reported :
      scan ['(', '\n', '[', '\x7b', '\x7d'] =
        some ⟨.unclosed, '[', ⟨2, 1⟩⟩ := by decide
  have knownCut :
      CutsAt ['(', '\n', '[', '\x7b', '\x7d'] '[' ['(', '\n']
        ['\x7b', '\x7d'] := ⟨by decide, by decide, by decide⟩
  have knownRepair :
      Repairs ['(', '\n', '[', '\x7b', '\x7d'] [']', ')'] := by
    refine ⟨?_, by decide⟩
    intro c member
    simp only [List.mem_cons, List.not_mem_nil, or_false] at member
    rcases member with rfl | rfl
    · exact ⟨.square, rfl⟩
    · exact ⟨.round, rfl⟩
  obtain ⟨⟨before, behind, _, _, onlyCut⟩,
    repair, _, _, _, onlyRepair, _⟩ :=
      unclosed_innermost_and_repair reported
  obtain ⟨rfl, rfl⟩ := onlyCut _ _ knownCut
  have sameRepair := onlyRepair _ knownRepair
  subst sameRepair
  refine ⟨reported, ?_, ?_⟩
  · intro otherBefore otherBehind
    constructor
    · exact onlyCut otherBefore otherBehind
    · rintro ⟨rfl, rfl⟩
      exact knownCut
  · intro other
    constructor
    · exact onlyRepair other
    · rintro rfl
      exact knownRepair

end Preflight.Delimiter
