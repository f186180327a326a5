import Preflight.Proofs.Delimiter.Corresponding
import Preflight.Proofs.Delimiter.Place

/-!
# Balanced text inside another text

A balanced text may be put anywhere into another one, inside a line or across
lines. Whatever waits before it waits behind it, so the scan goes on as it does
without it, and only the places that it counts are others. What is reported
then is the same character of the text around.
-/

namespace Preflight

open Position (beforeText ofOffset)

namespace Delimiter

/-! ## Places around an inserted text -/

theorem ofOffset_append {first : List Char} {offset : Nat}
    (inside : offset < first.length) (second : List Char) :
    ofOffset (first ++ second) offset = ofOffset first offset := by
  rw [ofOffset, ofOffset, List.take_append_of_le_length inside]

theorem ofOffset_append_length_add {first second : List Char} {index : Nat} :
    ofOffset (first ++ second) (first.length + index) =
      beforeText.after (first ++ second.take (index + 1)) := by
  rw [ofOffset, Nat.add_assoc, List.take_length_add_append]

/-- The places of one character, without and with a text inserted. In front of
the insertion the place is the same, and behind it the offset is greater by the
length of what is inserted. -/
inductive SameCharacter (before block behind : List Char) :
    Position → Position → Prop
  | kept {offset : Nat} :
      offset < before.length →
      SameCharacter before block behind
        (ofOffset (before ++ behind) offset)
        (ofOffset (before ++ behind) offset)
  | moved {index : Nat} :
      index < behind.length →
      SameCharacter before block behind
        (ofOffset (before ++ behind) (before.length + index))
        (ofOffset (before ++ block ++ behind)
          (before.length + block.length + index))

theorem SameCharacter.of_ofOffset {before : List Char} {offset : Nat}
    (inside : offset < before.length) (block behind : List Char) :
    SameCharacter before block behind
      (ofOffset before offset) (ofOffset before offset) := by
  have kept : SameCharacter before block behind _ _ := .kept inside
  rwa [ofOffset_append inside] at kept

theorem SameCharacter.of_prefix {read behind : List Char} {c : Char}
    (isPrefix : read ++ [c] <+: behind) (before block : List Char) :
    SameCharacter before block behind
      (beforeText.after (before ++ (read ++ [c])))
      (beforeText.after (before ++ block ++ (read ++ [c]))) := by
  have taken : behind.take (read.length + 1) = read ++ [c] := by
    rw [List.prefix_iff_eq_take.1 isPrefix]
    simp
  have inside : read.length < behind.length := by
    have shorter := isPrefix.length_le
    rw [List.length_append, List.length_singleton] at shorter
    omega
  have joined : before.length + block.length = (before ++ block).length :=
    List.length_append.symm
  have moved : SameCharacter before block behind _ _ := .moved inside
  rwa [joined, ofOffset_append_length_add, ofOffset_append_length_add,
    taken] at moved

theorem SameCharacter.exists_offset {before block behind : List Char}
    {place other : Position}
    (same : SameCharacter before block behind place other) :
    ∃ offset < (before ++ behind).length,
      ofOffset (before ++ behind) offset = place ∧
        (offset < before.length → other = place) ∧
        ∀ index, offset = before.length + index →
          other =
            ofOffset (before ++ block ++ behind)
              (before.length + block.length + index) := by
  cases same with
  | @kept offset inside =>
      refine ⟨offset, ?_, rfl, fun _ => rfl, ?_⟩
      · rw [List.length_append]
        omega
      · intro index placed
        omega
  | @moved index inside =>
      refine ⟨before.length + index, ?_, rfl, ?_, ?_⟩
      · rw [List.length_append]
        omega
      · intro inFront
        omega
      · intro otherIndex sameOffset
        have sameIndex : index = otherIndex := by omega
        rw [sameIndex]

/-- What waits behind a text was opened in it. -/
theorem Opened.position_of_mem {waiting : List Frame} {text : List Char}
    (opened : Opened waiting text) {frame : Frame}
    (member : frame ∈ waiting) :
    ∃ offset < text.length, frame.position = ofOffset text offset := by
  induction opened with
  | nested _ =>
      cases member
  | @opener outer before inner delimiter _ _ inductionHypothesis =>
      rcases List.mem_cons.1 member with rfl | outside
      · refine ⟨before.length, by simp, ?_⟩
        rw [Position.ofOffset_append_cons]
      · obtain ⟨offset, inside, placed⟩ := inductionHypothesis outside
        refine ⟨offset, ?_, ?_⟩
        · rw [List.length_append]
          omega
        · rw [placed, ofOffset_append inside]

/-! ## Scans around an inserted text -/

theorem scan_insert {block : List Char} (balanced : scan block = none)
    (before behind : List Char) :
    Option.Rel
      (Imbalance.Corresponds (SameCharacter before block behind))
      (scan (before ++ behind)) (scan (before ++ block ++ behind)) := by
  cases outcome : Pending.start.readAll before with
  | error imbalance =>
      have ends := Pending.readAll_append_of_error outcome behind
      have endsToo :=
        Pending.readAll_append_of_error outcome (block ++ behind)
      rw [← List.append_assoc] at endsToo
      rw [scan_of_readAll_eq_error ends, scan_of_readAll_eq_error endsToo]
      obtain ⟨left, c, right, rfl, _, rfl, _, _⟩ :=
        exists_last_completable outcome
      refine .some ⟨rfl, rfl, ?_⟩
      rw [← Position.ofOffset_append_cons left right c]
      exact .of_ofOffset (by simp) block behind
  | ok pending =>
      have opened := Opened.of_readAll outcome
      have waits :
          List.Forall₂
            (Frame.Corresponds (SameCharacter before block behind))
            pending.waiting pending.waiting := by
        rw [List.forall₂_same]
        intro frame member
        obtain ⟨offset, inside, placed⟩ := opened.position_of_mem member
        refine ⟨rfl, ?_⟩
        rw [placed]
        exact .of_ofOffset inside block behind
      have blockRead :
          Pending.start.readAll (before ++ block) =
            .ok ⟨pending.waiting, pending.place.after block⟩ := by
        rw [scan_eq_none_iff_readAll, readAll_eq_ok_iff_nested] at balanced
        rw [Pending.readAll_append outcome]
        exact balanced.readAll pending
      have run :
          Pending.OutcomesCorrespond (SameCharacter before block behind)
            (pending.readAll behind)
            (Pending.readAll
              ⟨pending.waiting, pending.place.after block⟩ behind) := by
        refine Pending.readAll_corresponds pending
          ⟨pending.waiting, pending.place.after block⟩ waits ?_
        intro read c isPrefix
        rw [Pending.place_of_readAll outcome]
        have reached := SameCharacter.of_prefix isPrefix before block
        rw [Position.after_append _ before (read ++ [c]),
          Position.after_append _ (before ++ block) (read ++ [c]),
          Position.after_append _ before block] at reached
        exact reached
      rw [← Pending.readAll_append outcome,
        ← Pending.readAll_append blockRead] at run
      exact scan_corresponds run

/-- The character that is reported stands at one offset, and the place that is
reported is that of this offset. -/
theorem exists_offset_of_reported {text : List Char} {imbalance : Imbalance}
    (reported : scan text = some imbalance) :
    ∃ offset < text.length,
      text[offset]? = some imbalance.character ∧
        ofOffset text offset = imbalance.position ∧
        ∀ other < text.length,
          ofOffset text other = imbalance.position → other = offset := by
  obtain ⟨before, rest, split, _, placed⟩ := exists_reported reported
  have samePlace : ofOffset text before.length = imbalance.position := by
    rw [split, Position.ofOffset_append_cons, placed]
  have inside : before.length < text.length := by
    rw [split, List.length_append, List.length_cons]
    omega
  refine ⟨before.length, inside, ?_, samePlace, ?_⟩
  · rw [split]
    simp
  · intro other otherInside samePlaceToo
    rw [← samePlace] at samePlaceToo
    exact Position.eq_of_ofOffset_eq otherInside inside samePlaceToo

theorem scan_eq_none_of_neutral {text : List Char}
    (neutral : ∀ c ∈ text, c ∉ characters) : scan text = none := by
  rw [scan_eq_none_iff_readAll, readAll_eq_ok_iff_nested]
  induction text with
  | nil =>
      exact .empty
  | cons c rest inductionHypothesis =>
      obtain ⟨first, others⟩ := List.forall_mem_cons.1 neutral
      exact .neutral first (inductionHypothesis others)

/-- A balanced text inside another one, such as a text without delimiters, does
not change the verdict. If something is reported around it, it is the same
character with it and without it, in the same way. In front of the insertion
the character keeps its line and its column, and behind it they are those of
the offset that is greater by the length of what is inserted. -/
theorem scan_insert_balanced (before block behind : List Char) :
    ((∀ c ∈ block, c ∉ characters) → scan block = none) ∧
      (scan block = none →
        (scan (before ++ block ++ behind) = none ↔
            scan (before ++ behind) = none) ∧
          ∀ imbalance, scan (before ++ behind) = some imbalance →
            ∃ found offset,
              scan (before ++ block ++ behind) = some found ∧
                found.kind = imbalance.kind ∧
                found.character = imbalance.character ∧
                (before ++ behind)[offset]? = some imbalance.character ∧
                ofOffset (before ++ behind) offset = imbalance.position ∧
                (∀ other < (before ++ behind).length,
                  ofOffset (before ++ behind) other = imbalance.position →
                    other = offset) ∧
                (offset < before.length →
                  found.position = imbalance.position) ∧
                ∀ index, offset = before.length + index →
                  found.position =
                    ofOffset (before ++ block ++ behind)
                      (before.length + block.length + index)) := by
  refine ⟨scan_eq_none_of_neutral, ?_⟩
  intro balanced
  have inserted := scan_insert balanced before behind
  constructor
  · generalize scan (before ++ behind) = outcome at inserted
    generalize scan (before ++ block ++ behind) = otherOutcome at inserted
    cases inserted with
    | some _ =>
        simp
    | none =>
        exact Iff.rfl
  · intro imbalance reported
    rw [reported] at inserted
    cases outcome : scan (before ++ block ++ behind) with
    | none =>
        rw [outcome] at inserted
        cases inserted
    | some found =>
        rw [outcome] at inserted
        cases inserted with
        | some corresponds =>
            obtain ⟨sameKind, sameCharacter, samePlace⟩ := corresponds
            obtain ⟨offset, inside, stands, placed, only⟩ :=
              exists_offset_of_reported reported
            obtain ⟨other, otherInside, otherPlaced, kept, moved⟩ :=
              samePlace.exists_offset
            have sameOffset := only other otherInside otherPlaced
            subst sameOffset
            exact ⟨found, other, rfl, sameKind, sameCharacter, stands, placed,
              only, kept, moved⟩

/-- A pair over two lines, put in front of a closer that does not fit and behind
an opener that waits. -/
theorem scan_insert_balanced_two_lines :
    scan "[a\x7d".toList = some ⟨.unmatchedClosing, '\x7d', ⟨1, 3⟩⟩ ∧
      scan "[(\n)a\x7d".toList = some ⟨.unmatchedClosing, '\x7d', ⟨2, 3⟩⟩ ∧
      scan "\n[".toList = some ⟨.unclosed, '[', ⟨2, 1⟩⟩ ∧
      scan "\n[(\n)".toList = some ⟨.unclosed, '[', ⟨2, 1⟩⟩ := by
  have pairBalanced : scan "(\n)".toList = none := by decide
  have misfitReported :
      scan ("[".toList ++ "a\x7d".toList) =
        some ⟨.unmatchedClosing, '\x7d', ⟨1, 3⟩⟩ := by decide
  have openerReported :
      scan ("\n[".toList ++ []) = some ⟨.unclosed, '[', ⟨2, 1⟩⟩ := by decide
  obtain ⟨_, misfitKept⟩ :=
    (scan_insert_balanced "[".toList "(\n)".toList "a\x7d".toList).2
      pairBalanced
  obtain ⟨_, openerKept⟩ :=
    (scan_insert_balanced "\n[".toList "(\n)".toList []).2 pairBalanced
  refine ⟨misfitReported, ?_, openerReported, ?_⟩
  · obtain ⟨⟨kind, character, position⟩, offset, found, sameKind,
      sameCharacter, _, _, only, _, moved⟩ := misfitKept _ misfitReported
    have third : 2 = offset := only 2 (by decide) (by decide)
    subst third
    have placed := moved 1 rfl
    simp only at sameKind sameCharacter placed
    subst sameKind sameCharacter placed
    exact found
  · obtain ⟨⟨kind, character, position⟩, offset, found, sameKind,
      sameCharacter, _, _, only, kept, _⟩ := openerKept _ openerReported
    have second : 1 = offset := only 1 (by decide) (by decide)
    subst second
    have placed := kept (by decide)
    simp only at sameKind sameCharacter placed
    subst sameKind sameCharacter placed
    exact found

end Delimiter

end Preflight
