import Preflight.Delimiter.Scan

/-!
# Runs of the delimiter scan

What one character does to a scan under way, and what a whole text does:

* `Reads` lists the three ways to read on, and `read_eq_ok_iff` says that
  there are no others;
* only a closer that does not fit the innermost opener ends the scan;
* a text is read in pieces, and a scan that has ended stays ended.

The outcome of `scan` is then told by the outcome of the run.
-/

namespace Preflight

namespace Pending

/-- The ways in which a scan reads on. -/
inductive Reads (pending : Pending) (c : Char) : Pending → Prop
  | neutral :
      c ∉ Delimiter.characters →
      Reads pending c ⟨pending.waiting, pending.place.next c⟩
  | opens (delimiter : Delimiter) :
      c = delimiter.opener →
      Reads pending c
        ⟨⟨delimiter, pending.place.next c⟩ :: pending.waiting,
          pending.place.next c⟩
  | closes (frame : Frame) (outer : List Frame) :
      c = frame.delimiter.closer →
      pending.waiting = frame :: outer →
      Reads pending c ⟨outer, pending.place.next c⟩

/-- A character does not fit when it is a closer and no opener waits, or the
innermost one waits for another closer. -/
def Misfit (pending : Pending) (c : Char) : Prop :=
  ∃ delimiter : Delimiter, c = delimiter.closer ∧
    ∀ frame ∈ pending.waiting.head?, frame.delimiter ≠ delimiter

/-! ## One character -/

theorem read_opener (pending : Pending) (delimiter : Delimiter) :
    pending.read delimiter.opener =
      .ok ⟨⟨delimiter, pending.place.next delimiter.opener⟩ ::
        pending.waiting, pending.place.next delimiter.opener⟩ := by
  simp [read]

theorem read_neutral (pending : Pending) {c : Char}
    (neutral : c ∉ Delimiter.characters) :
    pending.read c = .ok ⟨pending.waiting, pending.place.next c⟩ := by
  have roleNeutral := Delimiter.role_eq_neutral_iff.2 neutral
  simp [read, roleNeutral]

theorem read_closer (frame : Frame) (outer : List Frame)
    (place : Position) :
    (⟨frame :: outer, place⟩ : Pending).read frame.delimiter.closer =
      .ok ⟨outer, place.next frame.delimiter.closer⟩ := by
  simp [read]

theorem Reads.read_eq_ok {pending next : Pending} {c : Char}
    (reads : Reads pending c next) : pending.read c = .ok next := by
  cases reads with
  | neutral isNeutral =>
      exact read_neutral pending isNeutral
  | opens delimiter isOpener =>
      rw [isOpener]
      exact read_opener pending delimiter
  | closes frame outer isCloser waits =>
      obtain ⟨waiting, place⟩ := pending
      subst isCloser
      subst waits
      exact read_closer frame outer place

/-- A scan reads on in one of the listed ways, or ends at a closer that does
not fit. -/
theorem read_cases (pending : Pending) (c : Char) :
    (∃ next, Reads pending c next) ∨
      (pending.Misfit c ∧
        pending.read c =
          .error ⟨.unmatchedClosing, c, pending.place.next c⟩) := by
  cases role : Delimiter.role c with
  | neutral =>
      exact Or.inl ⟨_, .neutral (Delimiter.role_eq_neutral_iff.1 role)⟩
  | opens delimiter =>
      exact Or.inl
        ⟨_, .opens delimiter (Delimiter.role_eq_opens_iff.1 role)⟩
  | closes delimiter =>
      have isCloser := Delimiter.role_eq_closes_iff.1 role
      cases waits : pending.waiting with
      | nil =>
          have misfit : pending.Misfit c :=
            ⟨delimiter, isCloser, by simp [waits]⟩
          exact Or.inr ⟨misfit, by simp [read, role, waits]⟩
      | cons frame outer =>
          by_cases same : frame.delimiter = delimiter
          · refine Or.inl ⟨_, .closes frame outer ?_ waits⟩
            rw [same, isCloser]
          · have misfit : pending.Misfit c :=
              ⟨delimiter, isCloser, by simpa [waits] using same⟩
            exact Or.inr ⟨misfit, by simp [read, role, waits, same]⟩

theorem read_eq_ok_iff {pending next : Pending} {c : Char} :
    pending.read c = .ok next ↔ Reads pending c next := by
  constructor
  · intro read
    rcases pending.read_cases c with ⟨other, reads⟩ | ⟨_, ends⟩
    · have same := reads.read_eq_ok.symm.trans read
      cases same
      exact reads
    · rw [ends] at read
      cases read
  · exact Reads.read_eq_ok

theorem Reads.place_eq {pending next : Pending} {c : Char}
    (reads : Reads pending c next) :
    next.place = pending.place.next c := by
  cases reads <;> rfl

/-- What ends a scan is a closer that does not fit, reported at its own
place. -/
theorem imbalance_of_read {pending : Pending} {c : Char}
    {imbalance : Imbalance} (ends : pending.read c = .error imbalance) :
    pending.Misfit c ∧
      imbalance = ⟨.unmatchedClosing, c, pending.place.next c⟩ := by
  rcases pending.read_cases c with ⟨next, reads⟩ | ⟨misfit, endsHere⟩
  · rw [reads.read_eq_ok] at ends
    cases ends
  · rw [endsHere] at ends
    cases ends
    exact ⟨misfit, rfl⟩

/-! ## A text -/

theorem readAll_cons_of_read {pending next : Pending} {c : Char}
    (read : pending.read c = .ok next) (rest : List Char) :
    pending.readAll (c :: rest) = next.readAll rest := by
  simp only [readAll, read]

theorem readAll_cons_eq_ok_iff {pending later : Pending} {c : Char}
    {rest : List Char} :
    pending.readAll (c :: rest) = .ok later ↔
      ∃ next, Reads pending c next ∧ next.readAll rest = .ok later := by
  simp only [← read_eq_ok_iff, readAll]
  cases pending.read c <;> simp

theorem readAll_cons_eq_error_iff {pending : Pending} {c : Char}
    {rest : List Char} {imbalance : Imbalance} :
    pending.readAll (c :: rest) = .error imbalance ↔
      pending.read c = .error imbalance ∨
        ∃ next, Reads pending c next ∧
          next.readAll rest = .error imbalance := by
  simp only [← read_eq_ok_iff, readAll]
  cases pending.read c <;> simp

theorem readAll_append {pending later : Pending} {first : List Char}
    (read : pending.readAll first = .ok later) (second : List Char) :
    pending.readAll (first ++ second) = later.readAll second := by
  induction first generalizing pending with
  | nil =>
      cases read
      rfl
  | cons c rest inductionHypothesis =>
      obtain ⟨next, reads, restRead⟩ := readAll_cons_eq_ok_iff.1 read
      rw [List.cons_append, readAll_cons_of_read reads.read_eq_ok]
      exact inductionHypothesis restRead

/-- A scan that has ended stays ended, whatever follows. -/
theorem readAll_append_of_error {pending : Pending} {first : List Char}
    {imbalance : Imbalance} (ends : pending.readAll first = .error imbalance)
    (second : List Char) :
    pending.readAll (first ++ second) = .error imbalance := by
  induction first generalizing pending with
  | nil => cases ends
  | cons c rest inductionHypothesis =>
      rw [List.cons_append, readAll_cons_eq_error_iff]
      rcases readAll_cons_eq_error_iff.1 ends with
        endsHere | ⟨next, reads, endsLater⟩
      · exact Or.inl endsHere
      · exact Or.inr ⟨next, reads, inductionHypothesis endsLater⟩

theorem readAll_of_append {pending later : Pending}
    {first second : List Char}
    (read : pending.readAll (first ++ second) = .ok later) :
    ∃ between, pending.readAll first = .ok between := by
  cases outcome : pending.readAll first with
  | ok between => exact ⟨between, rfl⟩
  | error imbalance =>
      rw [readAll_append_of_error outcome] at read
      cases read

/-- A scan that ends does so at one character, behind a part that it reads. -/
theorem exists_misfit {pending : Pending} {text : List Char}
    {imbalance : Imbalance} (ends : pending.readAll text = .error imbalance) :
    ∃ before c rest between,
      text = before ++ c :: rest ∧
        pending.readAll before = .ok between ∧
        between.read c = .error imbalance := by
  induction text generalizing pending with
  | nil => cases ends
  | cons c rest inductionHypothesis =>
      rcases readAll_cons_eq_error_iff.1 ends with
        endsHere | ⟨next, reads, endsLater⟩
      · exact ⟨[], c, rest, pending, rfl, rfl, endsHere⟩
      · obtain ⟨before, misfit, behind, between, split, read, misread⟩ :=
          inductionHypothesis endsLater
        refine ⟨c :: before, misfit, behind, between, ?_, ?_, misread⟩
        · rw [split, List.cons_append]
        · rw [readAll_cons_of_read reads.read_eq_ok, read]

theorem place_of_readAll {pending later : Pending} {text : List Char}
    (read : pending.readAll text = .ok later) :
    later.place = pending.place.after text := by
  induction text generalizing pending with
  | nil =>
      cases read
      rfl
  | cons c rest inductionHypothesis =>
      obtain ⟨next, reads, restRead⟩ := readAll_cons_eq_ok_iff.1 read
      rw [inductionHypothesis restRead, Position.after_cons,
        reads.place_eq]

end Pending

/-! ## The outcome of a scan -/

namespace Delimiter

theorem scan_of_readAll_eq_ok {text : List Char} {pending : Pending}
    (read : Pending.start.readAll text = .ok pending) :
    scan text = Imbalance.atEnd? pending.waiting := by
  simp only [scan, read]

theorem scan_of_readAll_eq_error {text : List Char} {imbalance : Imbalance}
    (ends : Pending.start.readAll text = .error imbalance) :
    scan text = some imbalance := by
  simp only [scan, ends]

theorem scan_eq_none_iff_readAll (text : List Char) :
    scan text = none ↔
      Pending.start.readAll text =
        .ok ⟨[], Position.beforeText.after text⟩ := by
  constructor
  · intro balanced
    cases outcome : Pending.start.readAll text with
    | error imbalance =>
        rw [scan_of_readAll_eq_error outcome] at balanced
        cases balanced
    | ok pending =>
        have placed := Pending.place_of_readAll outcome
        rw [scan_of_readAll_eq_ok outcome] at balanced
        obtain ⟨waiting, place⟩ := pending
        cases waiting with
        | nil =>
            cases placed
            rfl
        | cons frame outer => cases balanced
  · intro read
    exact scan_of_readAll_eq_ok read

theorem kind_scan_eq_unmatchedClosing_iff (text : List Char) :
    (scan text).map Imbalance.kind = some .unmatchedClosing ↔
      ∃ imbalance, Pending.start.readAll text = .error imbalance := by
  cases outcome : Pending.start.readAll text with
  | error imbalance =>
      obtain ⟨_, c, _, between, _, _, misread⟩ :=
        Pending.exists_misfit outcome
      have found := (Pending.imbalance_of_read misread).2
      rw [scan_of_readAll_eq_error outcome, found]
      simp
  | ok pending =>
      rw [scan_of_readAll_eq_ok outcome]
      cases pending.waiting <;> simp [Imbalance.atEnd?]

theorem scan_eq_unclosed_iff {text : List Char} {opener : Char}
    {position : Position} :
    scan text = some ⟨.unclosed, opener, position⟩ ↔
      ∃ delimiter outer,
        opener = delimiter.opener ∧
          Pending.start.readAll text =
            .ok ⟨⟨delimiter, position⟩ :: outer,
              Position.beforeText.after text⟩ := by
  constructor
  · intro unclosed
    cases outcome : Pending.start.readAll text with
    | error imbalance =>
        have unmatched :=
          (kind_scan_eq_unmatchedClosing_iff text).2 ⟨imbalance, outcome⟩
        rw [unclosed] at unmatched
        simp at unmatched
    | ok pending =>
        have placed := Pending.place_of_readAll outcome
        rw [scan_of_readAll_eq_ok outcome] at unclosed
        obtain ⟨waiting, place⟩ := pending
        cases waiting with
        | nil => cases unclosed
        | cons frame outer =>
            cases placed
            cases unclosed
            exact ⟨frame.delimiter, outer, rfl, rfl⟩
  · rintro ⟨delimiter, outer, rfl, read⟩
    exact scan_of_readAll_eq_ok read

end Delimiter

end Preflight
