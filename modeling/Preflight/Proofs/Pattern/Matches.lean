import Preflight.Pattern.Basic

/-!
# What a pattern matches

A pattern is a relation between a piece of a text, what stands in front of it
and what stands behind it. Moving marks over the gaps of a text decides this
relation: the gaps that a pattern marks are those behind a piece that matches
and starts at a marked gap. No way to match is missed, however the parts of a
pattern share the text among them, and repetitions without an upper bound are
followed for as long as they get anywhere.
-/

namespace Preflight.Pattern

/-- A relation between what stands before a piece of a text, the piece, and what
stands behind it. -/
abbrev Pieces := List Char → List Char → List Char → Prop

namespace Pieces

def nothing : Pieces := fun _ piece _ => piece = []

/-- A piece of one kind and a piece of another right behind it. -/
def andThen (first second : Pieces) : Pieces :=
  fun before piece behind =>
    ∃ front rest,
      piece = front ++ rest ∧ first before front (rest ++ behind) ∧
        second (before ++ front) rest behind

def either (left right : Pieces) : Pieces :=
  fun before piece behind =>
    left before piece behind ∨ right before piece behind

/-- So many pieces of one kind in a row. -/
def times (pieces : Pieces) : Nat → Pieces
  | 0 => nothing
  | count + 1 => pieces.andThen (pieces.times count)

end Pieces

/-- The pieces of a text that match a pattern. -/
def Matches : Pattern → Pieces
  | empty => .nothing
  | one among => fun _ piece _ => ∃ c, piece = [c] ∧ among.contains c = true
  | gap assertion => fun before piece behind =>
      piece = [] ∧ assertion.holds before.getLast? behind.head? = true
  | sequence first second => first.Matches.andThen second.Matches
  | choice left right => left.Matches.either right.Matches
  | repeated least most body => fun before piece behind =>
      ∃ extra, (∀ bound ∈ most, extra ≤ bound - least) ∧
        body.Matches.times (least + extra) before piece behind

/-! ## Pieces in a row -/

namespace Pieces

variable {pieces : Pieces} {before piece behind : List Char}

theorem nothing_andThen {second : Pieces} :
    nothing.andThen second before piece behind ↔
      second before piece behind := by
  constructor
  · rintro ⟨front, rest, rfl, empty, found⟩
    cases empty
    simpa using found
  · intro found
    exact ⟨[], piece, by simp, rfl, by simpa using found⟩

theorem andThen_assoc {first second third : Pieces} :
    (first.andThen second).andThen third before piece behind ↔
      first.andThen (second.andThen third) before piece behind := by
  constructor
  · rintro ⟨front, last, rfl, ⟨start, middle, rfl, found, later⟩, latest⟩
    refine ⟨start, middle ++ last, by simp, by simpa using found, middle, last,
      rfl, later, ?_⟩
    simpa using latest
  · rintro ⟨start, rest, rfl, found, middle, last, rfl, later, latest⟩
    refine ⟨start ++ middle, last, by simp, ⟨start, middle, rfl, ?_, later⟩,
      ?_⟩
    · simpa using found
    · simpa using latest

theorem times_add (count more : Nat) :
    pieces.times (count + more) before piece behind ↔
      (pieces.times count).andThen (pieces.times more) before piece
        behind := by
  induction count generalizing before piece with
  | zero =>
      rw [Nat.zero_add]
      exact nothing_andThen.symm
  | succ count inductionHypothesis =>
      rw [Nat.add_right_comm, times, times, andThen_assoc]
      simp only [andThen, inductionHypothesis]

/-- Pieces that get nowhere can be left out, so a row of pieces need not be
longer than the text that it covers. -/
theorem times_shorten {count : Nat}
    (found : pieces.times count before piece behind) :
    ∃ fewer ≤ piece.length, pieces.times fewer before piece behind := by
  induction count generalizing before piece with
  | zero =>
      cases found
      exact ⟨0, Nat.le_refl 0, rfl⟩
  | succ count inductionHypothesis =>
      obtain ⟨front, rest, rfl, first, others⟩ := found
      obtain ⟨fewer, bound, shorter⟩ := inductionHypothesis others
      cases front with
      | nil =>
          -- What is left stands where the row started, so it will do alone.
          exact ⟨fewer, bound, by simpa using shorter⟩
      | cons c more =>
          refine ⟨fewer + 1, ?_, _, _, rfl, first, shorter⟩
          simp only [List.length_append, List.length_cons]
          omega

/-- Rows of pieces of which some may be left out are rows of fewer pieces. -/
theorem times_either_nothing (count : Nat) :
    (nothing.either pieces).times count before piece behind ↔
      ∃ fewer ≤ count, pieces.times fewer before piece behind := by
  induction count generalizing before piece with
  | zero =>
      simp [times]
  | succ count inductionHypothesis =>
      constructor
      · rintro ⟨front, rest, rfl, found, others⟩
        obtain ⟨fewer, bound, shorter⟩ := inductionHypothesis.1 others
        rcases found with empty | found
        · cases empty
          exact ⟨fewer, by omega, by simpa using shorter⟩
        · exact ⟨fewer + 1, by omega, front, rest, rfl, found, shorter⟩
      · rintro ⟨fewer, bound, found⟩
        cases fewer with
        | zero =>
            have row := inductionHypothesis.2 ⟨0, Nat.zero_le count, found⟩
            exact ⟨[], piece, rfl, Or.inl rfl, by simpa using row⟩
        | succ fewer =>
            obtain ⟨front, rest, rfl, first, others⟩ := found
            have row := inductionHypothesis.2 ⟨fewer, by omega, others⟩
            exact ⟨front, rest, rfl, Or.inr first, row⟩

end Pieces

/-! ## Marks that move over pieces -/

/-- The gap behind a text is marked. -/
def Marked (marks : Marks) (before : List Char) : Prop :=
  marks[before.length]? = some true

/-- A step moves the marks of a text from the gaps in front of pieces to the
gaps behind them. -/
structure Carries (text : List Char) (step : Marks → Marks)
    (pieces : Pieces) : Prop where
  length : ∀ {marks : Marks}, marks.length = text.length + 1 →
    (step marks).length = text.length + 1
  marked_iff : ∀ {marks : Marks} {before behind : List Char},
    marks.length = text.length + 1 → text = before ++ behind →
      (Marked (step marks) before ↔
        ∃ start piece, before = start ++ piece ∧ Marked marks start ∧
          pieces start piece behind)

theorem steps_of_fixed {step : Marks → Marks} {marks : Marks}
    (fixed : step marks = marks) (count : Nat) :
    steps step count marks = marks := by
  cases count with
  | zero =>
      rfl
  | succ count =>
      rw [steps, if_pos fixed]

/-- Stopping where nothing changes any more makes no difference. -/
theorem steps_succ (step : Marks → Marks) (count : Nat) (marks : Marks) :
    steps step (count + 1) marks = steps step count (step marks) := by
  rw [steps]
  split
  · rename_i fixed
    rw [fixed, steps_of_fixed fixed]
  · rfl

theorem marked_join {left right : Marks} {before : List Char}
    (same : left.length = right.length) :
    Marked (join left right) before ↔
      Marked left before ∨ Marked right before := by
  unfold Marked join
  rw [List.getElem?_zipWith]
  by_cases inside : before.length < left.length
  · have insideToo : before.length < right.length := by omega
    rw [List.getElem?_eq_getElem inside, List.getElem?_eq_getElem insideToo]
    simp
  · have outside : left.length ≤ before.length := by omega
    have outsideToo : right.length ≤ before.length := by omega
    rw [List.getElem?_eq_none outside, List.getElem?_eq_none outsideToo]
    simp

theorem getElem?_gaps (before behind : List Char) :
    (gaps (before ++ behind))[before.length]? =
      some (before.getLast?, behind.head?) := by
  have inFront :
      (none :: (before ++ behind).map some)[before.length]? =
        some before.getLast? := by
    rcases List.eq_nil_or_concat before with rfl | ⟨more, c, rfl⟩
    · rfl
    · simp
  have atBack :
      ((before ++ behind).map some ++ [none])[before.length]? =
        some behind.head? := by
    cases behind <;> simp
  rw [gaps, List.getElem?_zip_eq_some]
  exact ⟨inFront, atBack⟩

namespace Carries

variable {text : List Char} {step other : Marks → Marks}
  {pieces others : Pieces}

theorem one (among : CharClass) :
    Carries text (ends text (.one among)) (Matches (.one among)) where
  length := by
    intro marks full
    rw [ends, List.length_cons, List.length_zipWith, full,
      Nat.min_eq_right (Nat.le_succ _)]
  marked_iff := by
    intro marks before behind full cut
    rcases List.eq_nil_or_concat before with rfl | ⟨start, c, rfl⟩
    · constructor
      · intro marked
        cases marked
      · rintro ⟨start, piece, empty, _, c, rfl, _⟩
        simp at empty
    · subst cut
      have here : (start ++ [c] ++ behind)[start.length]? = some c := by
        simp
      have moved :
          Marked (ends (start ++ [c] ++ behind) (.one among) marks)
              (start ++ [c]) ↔
            Marked marks start ∧ among.contains c = true := by
        rw [Marked, ends, List.length_append, List.length_singleton,
          List.getElem?_cons_succ, List.getElem?_zipWith, here, Marked]
        cases marks[start.length]? <;> simp
      rw [List.concat_eq_append, moved]
      constructor
      · rintro ⟨marked, isAmong⟩
        exact ⟨start, [c], rfl, marked, c, rfl, isAmong⟩
      · rintro ⟨other, piece, same, marked, d, rfl, isAmong⟩
        obtain ⟨rfl, last⟩ := List.append_inj' same rfl
        cases last
        exact ⟨marked, isAmong⟩

theorem gap (assertion : Assertion) :
    Carries text (ends text (.gap assertion))
      (Matches (.gap assertion)) where
  length := by
    intro marks full
    rw [ends, List.length_zipWith, full, gaps]
    simp
  marked_iff := by
    intro marks before behind full cut
    subst cut
    have moved :
        Marked (ends (before ++ behind) (.gap assertion) marks) before ↔
          Marked marks before ∧
            assertion.holds before.getLast? behind.head? = true := by
      rw [Marked, ends, List.getElem?_zipWith, getElem?_gaps, Marked]
      cases marks[before.length]? <;> simp
    rw [moved]
    constructor
    · rintro ⟨marked, holds⟩
      exact ⟨before, [], by simp, marked, rfl, holds⟩
    · rintro ⟨start, piece, rfl, marked, empty, holds⟩
      cases empty
      simpa using And.intro marked holds

theorem congr (carries : Carries text step pieces)
    (same : ∀ {start piece behind}, text = start ++ piece ++ behind →
      (pieces start piece behind ↔ others start piece behind)) :
    Carries text step others where
  length := carries.length
  marked_iff := by
    intro marks before behind full cut
    rw [carries.marked_iff full cut]
    constructor
    · rintro ⟨start, piece, rfl, marked, found⟩
      exact ⟨start, piece, rfl, marked, (same cut).1 found⟩
    · rintro ⟨start, piece, rfl, marked, found⟩
      exact ⟨start, piece, rfl, marked, (same cut).2 found⟩

theorem nothing : Carries text (fun marks => marks) .nothing where
  length := fun full => full
  marked_iff := by
    intro marks before behind _ _
    constructor
    · intro marked
      exact ⟨before, [], by simp, marked, rfl⟩
    · rintro ⟨start, piece, rfl, marked, empty⟩
      cases empty
      simpa using marked

theorem andThen (carries : Carries text step pieces)
    (carriesToo : Carries text other others) :
    Carries text (fun marks => other (step marks))
      (pieces.andThen others) where
  length := fun full => carriesToo.length (carries.length full)
  marked_iff := by
    intro marks before behind full cut
    rw [carriesToo.marked_iff (carries.length full) cut]
    constructor
    · rintro ⟨middle, rest, rfl, marked, found⟩
      rw [List.append_assoc] at cut
      obtain ⟨start, front, rfl, markedStart, foundFirst⟩ :=
        (carries.marked_iff full cut).1 marked
      exact ⟨start, front ++ rest, by simp, markedStart, front, rest, rfl,
        foundFirst, found⟩
    · rintro ⟨start, _, rfl, marked, front, rest, rfl, foundFirst, found⟩
      refine ⟨start ++ front, rest, by simp, ?_, found⟩
      have cutThere : text = (start ++ front) ++ (rest ++ behind) := by
        simp [cut]
      exact (carries.marked_iff full cutThere).2
        ⟨start, front, rfl, marked, foundFirst⟩

theorem either (carries : Carries text step pieces)
    (carriesToo : Carries text other others) :
    Carries text (fun marks => join (step marks) (other marks))
      (pieces.either others) where
  length := by
    intro marks full
    rw [join, List.length_zipWith, carries.length full,
      carriesToo.length full, Nat.min_self]
  marked_iff := by
    intro marks before behind full cut
    have same : (step marks).length = (other marks).length := by
      rw [carries.length full, carriesToo.length full]
    rw [marked_join same, carries.marked_iff full cut,
      carriesToo.marked_iff full cut]
    constructor
    · rintro (⟨start, piece, rfl, marked, found⟩ |
        ⟨start, piece, rfl, marked, found⟩)
      · exact ⟨start, piece, rfl, marked, Or.inl found⟩
      · exact ⟨start, piece, rfl, marked, Or.inr found⟩
    · rintro ⟨start, piece, rfl, marked, found | found⟩
      · exact Or.inl ⟨start, piece, rfl, marked, found⟩
      · exact Or.inr ⟨start, piece, rfl, marked, found⟩

theorem times (carries : Carries text step pieces) (count : Nat) :
    Carries text (steps step count) (pieces.times count) := by
  induction count with
  | zero =>
      exact nothing
  | succ count inductionHypothesis =>
      have unrolled :
          steps step (count + 1) = fun marks => steps step count (step marks) :=
        funext (steps_succ step count)
      rw [unrolled]
      exact carries.andThen inductionHypothesis

theorem reach (carries : Carries text step pieces) (count : Nat) :
    Carries text (reach step count) fun before piece behind =>
      ∃ fewer ≤ count, pieces.times fewer before piece behind :=
  ((nothing.either carries).times count).congr fun _ =>
    Pieces.times_either_nothing count

end Carries

/-- Repetitions that get anywhere are no more than there are gaps, so as many
rounds find all of them. -/
theorem times_bounded {pieces : Pieces} {least : Nat} {most : Option Nat}
    {text before piece behind : List Char}
    (cut : text = before ++ piece ++ behind) :
    (pieces.times least).andThen
        (fun before piece behind =>
          ∃ fewer ≤ (match most with
            | some most => most - least
            | none => text.length + 1),
            pieces.times fewer before piece behind)
        before piece behind ↔
      ∃ extra, (∀ bound ∈ most, extra ≤ bound - least) ∧
        pieces.times (least + extra) before piece behind := by
  simp only [Pieces.times_add]
  constructor
  · rintro ⟨front, rest, rfl, first, fewer, bound, others⟩
    refine ⟨fewer, ?_, front, rest, rfl, first, others⟩
    intro most isMost
    cases isMost
    exact bound
  · rintro ⟨extra, bounded, front, rest, rfl, first, others⟩
    cases most with
    | some most =>
        exact ⟨front, rest, rfl, first, extra, bounded most rfl, others⟩
    | none =>
        obtain ⟨fewer, bound, shorter⟩ := Pieces.times_shorten others
        refine ⟨front, rest, rfl, first, fewer, ?_, shorter⟩
        have lengths := congrArg List.length cut
        simp only [List.length_append] at lengths
        change fewer ≤ text.length + 1
        omega

theorem carries_ends (text : List Char) (pattern : Pattern) :
    Carries text (pattern.ends text) pattern.Matches := by
  induction pattern with
  | empty =>
      exact Carries.nothing
  | one among =>
      exact Carries.one among
  | gap assertion =>
      exact Carries.gap assertion
  | sequence first second carriesFirst carriesSecond =>
      exact carriesFirst.andThen carriesSecond
  | choice left right carriesLeft carriesRight =>
      exact carriesLeft.either carriesRight
  | repeated least most body carriesBody =>
      exact ((carriesBody.times least).andThen
        (carriesBody.reach _)).congr times_bounded

/-- A pattern occurs in a text exactly when the text can be cut around a piece
that matches it. -/
theorem occursIn_iff {pattern : Pattern} {text : List Char} :
    pattern.occursIn text = true ↔
      ∃ before piece behind,
        text = before ++ piece ++ behind ∧
          pattern.Matches before piece behind := by
  have carries := carries_ends text pattern
  have full :
      (List.replicate (text.length + 1) true).length = text.length + 1 :=
    List.length_replicate
  have everywhere (before : List Char)
      (inside : before.length ≤ text.length) :
      Marked (List.replicate (text.length + 1) true) before := by
    rw [Marked, List.getElem?_replicate_of_lt (by omega)]
  unfold occursIn
  rw [List.any_eq_true]
  constructor
  · rintro ⟨mark, member, isMarked⟩
    cases isMarked
    obtain ⟨place, found⟩ := List.mem_iff_getElem?.1 member
    have inside := (List.getElem?_eq_some_iff.1 found).1
    rw [carries.length full] at inside
    have atPlace : (text.take place).length = place :=
      List.length_take_of_le (by omega)
    rw [← atPlace] at found
    obtain ⟨before, piece, cut, _, matched⟩ :=
      (carries.marked_iff full (List.take_append_drop place text).symm).1 found
    refine ⟨before, piece, text.drop place, ?_, matched⟩
    rw [← cut, List.take_append_drop]
  · rintro ⟨before, piece, behind, cut, matched⟩
    have lengths := congrArg List.length cut
    simp only [List.length_append] at lengths
    have marked : Marked (pattern.ends text _) (before ++ piece) :=
      (carries.marked_iff full cut).2
        ⟨before, piece, rfl, everywhere before (by omega), matched⟩
    exact ⟨true, List.mem_of_getElem? marked, rfl⟩

end Preflight.Pattern
