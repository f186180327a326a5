import Preflight.Delimiter.Nesting
import Preflight.Proofs.Delimiter.Run

/-!
# The scan decides nesting

A nesting text leaves every scan under way as it was, up to its place. In the
other direction a scan under way remembers how the text behind it is built:
nesting pieces, and between them the openers that wait. Both together
characterise the run by the text alone, and the texts without an imbalance are
those of the grammar.
-/

namespace Preflight.Delimiter

open Position (beforeText)

/-! ## Nesting texts are read -/

/-- A nesting text may stand anywhere: whatever waits before it waits behind
it. -/
theorem Nested.readAll {text : List Char} (nested : Nested text)
    (pending : Pending) :
    pending.readAll text =
      .ok ⟨pending.waiting, pending.place.after text⟩ := by
  induction nested generalizing pending with
  | empty => rfl
  | @neutral c rest isNeutral _ inductionHypothesis =>
      rw [Pending.readAll_cons_of_read
        (Pending.read_neutral pending isNeutral)]
      exact inductionHypothesis _
  | @pair delimiter inner rest _ _ innerHypothesis restHypothesis =>
      -- While the inner text is read, the opener of the pair lies on top.
      have frameOpened := Pending.read_opener pending delimiter
      have innerRead :=
        innerHypothesis
          ⟨⟨delimiter, pending.place.next delimiter.opener⟩ ::
            pending.waiting, pending.place.next delimiter.opener⟩
      have frameClosed :=
        Pending.read_closer
          ⟨delimiter, pending.place.next delimiter.opener⟩ pending.waiting
          ((pending.place.next delimiter.opener).after inner)
      rw [List.cons_append, Pending.readAll_cons_of_read frameOpened,
        Pending.readAll_append innerRead,
        Pending.readAll_cons_of_read frameClosed, restHypothesis]
      simp [Position.after_append]

/-! ## What a scan under way remembers -/

/-- The texts behind which these openers wait, innermost first: nesting pieces
with the openers between them, each at the place that its frame records. -/
inductive Opened : List Frame → List Char → Prop
  | nested {text : List Char} : Nested text → Opened [] text
  | opener {outer : List Frame} {before inner : List Char}
      (delimiter : Delimiter) :
      Opened outer before → Nested inner →
      Opened
        (⟨delimiter, beforeText.after (before ++ [delimiter.opener])⟩ ::
          outer)
        (before ++ delimiter.opener :: inner)

namespace Opened

theorem append {waiting : List Frame} {text more : List Char}
    (opened : Opened waiting text) (nested : Nested more) :
    Opened waiting (text ++ more) := by
  cases opened with
  | nested textNested =>
      exact .nested (textNested.append nested)
  | opener delimiter outerOpened innerNested =>
      have extended :=
        Opened.opener delimiter outerOpened (innerNested.append nested)
      simpa using extended

/-- The closer of the innermost opener ends its pair. -/
theorem close {frame : Frame} {outer : List Frame} {text : List Char}
    (opened : Opened (frame :: outer) text) :
    Opened outer (text ++ [frame.delimiter.closer]) := by
  cases opened with
  | @opener _ before inner delimiter outerOpened innerNested =>
      have pairNested := Nested.pair delimiter innerNested Nested.empty
      have closed := outerOpened.append pairNested
      simpa using closed

theorem step {pending next : Pending} {c : Char} {text : List Char}
    (opened : Opened pending.waiting text)
    (placed : pending.place = beforeText.after text)
    (reads : pending.Reads c next) :
    Opened next.waiting (text ++ [c]) := by
  cases reads with
  | neutral isNeutral =>
      exact opened.append (.neutral isNeutral .empty)
  | opens delimiter isOpener =>
      subst isOpener
      rw [placed]
      have openerOpened := Opened.opener delimiter opened Nested.empty
      simpa [Position.after_append] using openerOpened
  | closes frame outer isCloser waits =>
      subst isCloser
      rw [waits] at opened
      exact opened.close

/-- While a scan reads on, its openers stay those of the text behind it. -/
theorem run {pending later : Pending} {before text : List Char}
    (opened : Opened pending.waiting before)
    (placed : pending.place = beforeText.after before)
    (read : pending.readAll text = .ok later) :
    Opened later.waiting (before ++ text) := by
  induction text generalizing pending before with
  | nil =>
      cases read
      rwa [List.append_nil]
  | cons c rest inductionHypothesis =>
      obtain ⟨next, reads, restRead⟩ :=
        Pending.readAll_cons_eq_ok_iff.1 read
      have nextPlaced : next.place = beforeText.after (before ++ [c]) := by
        rw [reads.place_eq, placed, Position.after_append]
        rfl
      have opensOn :=
        inductionHypothesis (opened.step placed reads) nextPlaced restRead
      rwa [List.append_assoc, List.singleton_append] at opensOn

theorem of_readAll {pending : Pending} {text : List Char}
    (read : Pending.start.readAll text = .ok pending) :
    Opened pending.waiting text := by
  have started : Opened Pending.start.waiting [] := .nested .empty
  exact started.run rfl read

theorem readAll {waiting : List Frame} {text : List Char}
    (opened : Opened waiting text) :
    Pending.start.readAll text =
      .ok ⟨waiting, beforeText.after text⟩ := by
  induction opened with
  | nested textNested => exact textNested.readAll Pending.start
  | @opener outer before inner delimiter _ innerNested
      inductionHypothesis =>
      rw [Pending.readAll_append inductionHypothesis,
        Pending.readAll_cons_of_read (Pending.read_opener _ delimiter),
        innerNested.readAll]
      simp [Position.after_append]

end Opened

theorem readAll_eq_ok_iff_opened {waiting : List Frame} {text : List Char} :
    Pending.start.readAll text = .ok ⟨waiting, beforeText.after text⟩ ↔
      Opened waiting text := by
  constructor
  · exact Opened.of_readAll
  · exact Opened.readAll

theorem readAll_eq_ok_iff_nested {text : List Char} :
    Pending.start.readAll text = .ok ⟨[], beforeText.after text⟩ ↔
      Nested text := by
  rw [readAll_eq_ok_iff_opened]
  constructor
  · intro opened
    cases opened with
    | nested nested => exact nested
  · exact Opened.nested

/-! ## The verdict -/

/-- A text has no imbalance exactly when the nesting grammar derives it. -/
theorem scan_eq_none_iff_nested (text : List Char) :
    scan text = none ↔ Nested text := by
  rw [scan_eq_none_iff_readAll, readAll_eq_ok_iff_nested]

end Preflight.Delimiter
