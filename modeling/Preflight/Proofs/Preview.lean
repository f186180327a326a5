import Mathlib.Data.List.Pairwise
import Mathlib.Data.List.Sort
import Mathlib.Data.List.TakeDrop
import Preflight.Preview

/-!
# The printing calls of a preview

A printing call may stand at any offset of a text. Two calls overlap in one
way only: the quote that ends the literal of the first begins the literal of
the second. The search goes on behind each call it finds, so of a chain of such
overlaps it takes the first call, leaves the second, takes the third and so on.
Nothing else is left out, and this alone determines which calls are taken.
-/

namespace Preflight.Preview

open Text

/-- A printing call: where it starts, and the literal that it prints. -/
structure Call where
  offset : Nat
  literal : List Char
  deriving DecidableEq, Repr

namespace Call

/-- The offset of the quote that begins the literal. -/
def openingQuote (call : Call) : Nat :=
  call.offset + callStart.length - 1

/-- The offset of the quote that ends the literal. -/
def closingQuote (call : Call) : Nat :=
  call.offset + callStart.length + call.literal.length

/-- The offset behind the call. -/
def finish (call : Call) : Nat :=
  call.offset + callStart.length + call.literal.length + callEnd.length

/-- A call stands in a text that can be cut into the call, whose literal holds
no quote, and what is before and behind it. -/
def StandsIn (call : Call) (text : List Char) : Prop :=
  ∃ before behind,
    text = before ++ callStart ++ call.literal ++ callEnd ++ behind ∧
      before.length = call.offset ∧ '"' ∉ call.literal

end Call

theorem length_callStart : callStart.length = 7 := by
  decide

theorem length_callEnd : callEnd.length = 2 := by
  decide

theorem Call.openingQuote_eq (call : Call) :
    call.openingQuote = call.offset + 6 := by
  rw [openingQuote, length_callStart]
  omega

theorem Call.closingQuote_eq (call : Call) :
    call.closingQuote = call.offset + 7 + call.literal.length := by
  rw [closingQuote, length_callStart]

theorem Call.finish_eq (call : Call) :
    call.finish = call.offset + 9 + call.literal.length := by
  rw [finish, length_callStart, length_callEnd]
  omega

/-! ## The call at the start of a text -/

theorem literalAt?_eq_some_iff {text literal : List Char} :
    literalAt? text = some literal ↔
      '"' ∉ literal ∧
        ∃ behind, text = callStart ++ literal ++ callEnd ++ behind := by
  unfold literalAt? splitAtQuote
  constructor
  · intro found
    cases started : dropStart? callStart text with
    | none =>
        simp [started] at found
    | some rest =>
        simp only [started, List.span_eq_takeWhile_dropWhile] at found
        obtain ⟨behind, ended, rfl⟩ := Option.map_eq_some_iff.1 found
        have startCut := dropStart?_eq_some_iff.1 started
        have endCut := dropStart?_eq_some_iff.1 ended
        refine ⟨?_, behind, ?_⟩
        · intro member
          have noQuote := List.all_eq_true.1 List.all_takeWhile _ member
          simp at noQuote
        · rw [startCut, List.append_assoc, List.append_assoc, ← endCut,
            List.takeWhile_append_dropWhile]
  · rintro ⟨noQuote, behind, rfl⟩
    have started :
        dropStart? callStart (callStart ++ literal ++ callEnd ++ behind) =
          some (literal ++ (callEnd ++ behind)) := by
      rw [dropStart?_eq_some_iff, List.append_assoc, List.append_assoc]
    have ended :
        dropStart? callEnd (callEnd ++ behind) = some behind :=
      dropStart?_eq_some_iff.2 rfl
    have outside : ∀ c ∈ literal, decide (c ≠ '"') = true := by
      intro c member
      rw [decide_eq_true_eq]
      intro isQuote
      rw [isQuote] at member
      exact noQuote member
    have taken :
        (literal ++ (callEnd ++ behind)).takeWhile (· ≠ '"') = literal := by
      rw [List.takeWhile_append_of_pos outside]
      simp [callEnd]
    have left :
        (literal ++ (callEnd ++ behind)).dropWhile (· ≠ '"') =
          callEnd ++ behind := by
      rw [List.dropWhile_append_of_pos outside]
      simp [callEnd]
    simp only [started, List.span_eq_takeWhile_dropWhile, taken, left, ended,
      Option.map_some]

theorem Call.standsIn_iff {call : Call} {text : List Char} :
    call.StandsIn text ↔
      literalAt? (text.drop call.offset) = some call.literal := by
  rw [literalAt?_eq_some_iff]
  constructor
  · rintro ⟨before, behind, rfl, placed, noQuote⟩
    refine ⟨noQuote, behind, ?_⟩
    rw [← placed]
    simp
  · rintro ⟨noQuote, behind, cut⟩
    have inside : call.offset ≤ text.length := by
      by_contra outside
      rw [List.drop_eq_nil_of_le (by omega)] at cut
      have lengths := congrArg List.length cut
      simp only [List.length_append, List.length_nil,
        length_callStart] at lengths
      omega
    refine ⟨text.take call.offset, behind, ?_, ?_, noQuote⟩
    · rw [List.append_assoc, List.append_assoc, List.append_assoc,
        ← List.append_assoc callStart, ← List.append_assoc (callStart ++ _),
        ← cut, List.take_append_drop]
    · rw [List.length_take]
      omega

/-! ## How calls overlap -/

section Overlap

variable {text literal : List Char}
  (found : literalAt? text = some literal)

include found

theorem getElem?_callStart {index : Nat} (inside : index < 7) :
    text[index]? = callStart[index]? := by
  obtain ⟨_, behind, rfl⟩ := literalAt?_eq_some_iff.1 found
  rw [List.append_assoc, List.append_assoc,
    List.getElem?_append_left (by rw [length_callStart]; exact inside)]

theorem getElem?_literal_ne_quote {index : Nat} (behindStart : 7 ≤ index)
    (beforeEnd : index < 7 + literal.length) : text[index]? ≠ some '"' := by
  obtain ⟨noQuote, behind, rfl⟩ := literalAt?_eq_some_iff.1 found
  rw [List.append_assoc, List.append_assoc,
    List.getElem?_append_right (by rw [length_callStart]; exact behindStart),
    length_callStart, List.getElem?_append_left (by omega)]
  intro isQuote
  exact noQuote (List.mem_of_getElem? isQuote)

theorem getElem?_callEnd {index : Nat} (inside : index < 2) :
    text[7 + literal.length + index]? = callEnd[index]? := by
  obtain ⟨_, behind, rfl⟩ := literalAt?_eq_some_iff.1 found
  have place :
      7 + literal.length + index - 7 - literal.length = index := by
    omega
  rw [List.append_assoc, List.append_assoc,
    List.getElem?_append_right (by rw [length_callStart]; omega),
    length_callStart, List.getElem?_append_right (by omega), place,
    List.getElem?_append_left (by rw [length_callEnd]; exact inside)]

/-- A call that starts inside another one starts in its literal, and the two
share a quote. -/
theorem overlap_at_quote {start : Nat} {other : List Char}
    (foundToo : literalAt? (text.drop start) = some other)
    (later : 0 < start) (overlaps : start < 9 + literal.length) :
    start = literal.length + 1 := by
  have opening : text[start + 6]? = some '"' := by
    rw [← List.getElem?_drop, getElem?_callStart foundToo (by omega)]
    rfl
  by_contra apart
  by_cases early : start + 6 < 7 + literal.length
  · exact getElem?_literal_ne_quote found (by omega) early opening
  · -- The last character of the first call stands in the beginning of the
    -- second one, which has no closing parenthesis.
    have ending : text[8 + literal.length]? = some ')' := by
      have last := getElem?_callEnd found (by decide : 1 < 2)
      have place : 7 + literal.length + 1 = 8 + literal.length := by omega
      rw [place] at last
      exact last
    have reaches :
        8 + literal.length = start + (8 + literal.length - start) := by
      omega
    rw [reaches, ← List.getElem?_drop,
      getElem?_callStart foundToo (by omega)] at ending
    have parenthesis : ')' ∈ callStart := List.mem_of_getElem? ending
    revert parenthesis
    decide

end Overlap

/-- The quotes of a call that stands in a text are quotes of the text. -/
theorem Call.StandsIn.quotes {call : Call} {text : List Char}
    (stands : call.StandsIn text) :
    text[call.openingQuote]? = some '"' ∧
      text[call.closingQuote]? = some '"' := by
  have found := Call.standsIn_iff.1 stands
  constructor
  · rw [Call.openingQuote_eq, ← List.getElem?_drop,
      getElem?_callStart found (by decide)]
    rfl
  · rw [Call.closingQuote_eq, Nat.add_assoc, ← List.getElem?_drop]
    exact getElem?_callEnd found (by decide : 0 < 2)

/-! ## The calls that are taken -/

/-- The calls that the search takes in the rest of a text, whose first
character has the given offset. `skipped` says how many characters still belong
to the call found last. -/
def callsFrom : (skipped offset : Nat) → List Char → List Call
  | _, _, [] => []
  | skipped + 1, offset, _ :: rest => callsFrom skipped (offset + 1) rest
  | 0, offset, c :: rest =>
      match literalAt? (c :: rest) with
      | some literal =>
          ⟨offset, literal⟩ ::
            callsFrom
              (callStart.length + literal.length + callEnd.length - 1)
              (offset + 1) rest
      | none => callsFrom 0 (offset + 1) rest

theorem callsFrom_hit {c : Char} {rest literal : List Char}
    (found : literalAt? (c :: rest) = some literal) (offset : Nat) :
    callsFrom 0 offset (c :: rest) =
      ⟨offset, literal⟩ ::
        callsFrom (8 + literal.length) (offset + 1) rest := by
  have behind :
      callStart.length + literal.length + callEnd.length - 1 =
        8 + literal.length := by
    rw [length_callStart, length_callEnd]
    omega
  rw [callsFrom, found, ← behind]

theorem callsFrom_miss {c : Char} {rest : List Char}
    (none : literalAt? (c :: rest) = none) (offset : Nat) :
    callsFrom 0 offset (c :: rest) = callsFrom 0 (offset + 1) rest := by
  rw [callsFrom, none]

theorem map_literal_callsFrom (skipped offset : Nat) (text : List Char) :
    (callsFrom skipped offset text).map Call.literal =
      literalsFrom skipped text := by
  induction text generalizing skipped offset with
  | nil =>
      cases skipped <;> rfl
  | cons c rest inductionHypothesis =>
      cases skipped with
      | succ skipped =>
          exact inductionHypothesis skipped (offset + 1)
      | zero =>
          cases found : literalAt? (c :: rest) with
          | none =>
              rw [callsFrom_miss found, literalsFrom, found]
              exact inductionHypothesis 0 (offset + 1)
          | some literal =>
              rw [callsFrom, literalsFrom, found, List.map_cons,
                inductionHypothesis]

/-- A call that is taken stands in the text, behind what is skipped. -/
theorem exists_of_mem_callsFrom {skipped offset : Nat} {text : List Char}
    {call : Call} (taken : call ∈ callsFrom skipped offset text) :
    ∃ start, call.offset = offset + start ∧ skipped ≤ start ∧
      literalAt? (text.drop start) = some call.literal := by
  induction text generalizing skipped offset with
  | nil =>
      cases skipped <;> simp [callsFrom] at taken
  | cons c rest inductionHypothesis =>
      -- What is taken farther on is taken one character later.
      have fromRest : ∀ {left : Nat}, call ∈ callsFrom left (offset + 1) rest →
          ∃ start, call.offset = offset + (start + 1) ∧ left ≤ start ∧
            literalAt? ((c :: rest).drop (start + 1)) =
              some call.literal := by
        intro left takenLater
        obtain ⟨start, placed, behind, found⟩ := inductionHypothesis takenLater
        exact ⟨start, by omega, behind, found⟩
      cases skipped with
      | succ skipped =>
          obtain ⟨start, placed, behind, found⟩ := fromRest taken
          exact ⟨start + 1, placed, by omega, found⟩
      | zero =>
          cases found : literalAt? (c :: rest) with
          | none =>
              rw [callsFrom_miss found] at taken
              obtain ⟨start, placed, _, foundLater⟩ := fromRest taken
              exact ⟨start + 1, placed, Nat.zero_le _, foundLater⟩
          | some literal =>
              rw [callsFrom_hit found] at taken
              rcases List.mem_cons.1 taken with rfl | takenLater
              · exact ⟨0, rfl, Nat.le_refl 0, found⟩
              · obtain ⟨start, placed, _, foundLater⟩ := fromRest takenLater
                exact ⟨start + 1, placed, Nat.zero_le _, foundLater⟩

/-- Each call that is taken ends before the next one starts. -/
theorem pairwise_callsFrom (skipped offset : Nat) (text : List Char) :
    (callsFrom skipped offset text).Pairwise
      fun first second => first.finish ≤ second.offset := by
  induction text generalizing skipped offset with
  | nil =>
      cases skipped <;> exact List.Pairwise.nil
  | cons c rest inductionHypothesis =>
      cases skipped with
      | succ skipped =>
          exact inductionHypothesis skipped (offset + 1)
      | zero =>
          cases found : literalAt? (c :: rest) with
          | none =>
              rw [callsFrom_miss found]
              exact inductionHypothesis 0 (offset + 1)
          | some literal =>
              rw [callsFrom_hit found]
              refine List.pairwise_cons.2
                ⟨?_, inductionHypothesis (8 + literal.length) (offset + 1)⟩
              intro call takenLater
              obtain ⟨start, placed, behind, _⟩ :=
                exists_of_mem_callsFrom takenLater
              have ends :
                  (⟨offset, literal⟩ : Call).finish =
                    offset + 9 + literal.length := Call.finish_eq _
              omega

/-- A call behind what is skipped is taken, or a call that is taken overlaps it
from the left. -/
theorem taken_or_overlapped {skipped offset start : Nat}
    {text literal : List Char}
    (found : literalAt? (text.drop start) = some literal)
    (behind : skipped ≤ start) :
    ⟨offset + start, literal⟩ ∈ callsFrom skipped offset text ∨
      ∃ other ∈ callsFrom skipped offset text,
        other.closingQuote =
          (⟨offset + start, literal⟩ : Call).openingQuote := by
  induction text generalizing skipped offset start with
  | nil =>
      rw [List.drop_nil] at found
      cases found
  | cons c rest inductionHypothesis =>
      -- A call that starts farther on is found in the rest.
      have inRest : ∀ left later : Nat, start = later + 1 → left ≤ later →
          ⟨offset + start, literal⟩ ∈ callsFrom left (offset + 1) rest ∨
            ∃ other ∈ callsFrom left (offset + 1) rest,
              other.closingQuote =
                (⟨offset + start, literal⟩ : Call).openingQuote := by
        intro left later isLater behindLater
        subst isLater
        have sameOffset : offset + (later + 1) = offset + 1 + later := by
          omega
        rw [sameOffset]
        exact inductionHypothesis found behindLater
      cases skipped with
      | succ skipped =>
          cases start with
          | zero =>
              omega
          | succ later =>
              exact inRest skipped later rfl (by omega)
      | zero =>
          cases first : literalAt? (c :: rest) with
          | none =>
              rw [callsFrom_miss first]
              cases start with
              | zero =>
                  rw [List.drop_zero, first] at found
                  cases found
              | succ later =>
                  exact inRest 0 later rfl (Nat.zero_le later)
          | some firstLiteral =>
              rw [callsFrom_hit first]
              cases start with
              | zero =>
                  rw [List.drop_zero, first] at found
                  cases found
                  exact Or.inl List.mem_cons_self
              | succ later =>
                  by_cases overlaps : later + 1 < 9 + firstLiteral.length
                  · have shared :=
                      overlap_at_quote first found (Nat.succ_pos later)
                        overlaps
                    refine Or.inr ⟨_, List.mem_cons_self, ?_⟩
                    rw [Call.closingQuote_eq, Call.openingQuote_eq]
                    simp only
                    omega
                  · have foundLater :=
                      inRest (8 + firstLiteral.length) later rfl (by omega)
                    rcases foundLater with taken | ⟨other, taken, shared⟩
                    · exact Or.inl (List.mem_cons_of_mem _ taken)
                    · exact Or.inr
                        ⟨other, List.mem_cons_of_mem _ taken, shared⟩

/-! ## The calls of a preview -/

/-- Calls are taken up to overlap when they stand in the text, one ending
before the next one starts, and a call of the text is missing exactly when its
opening quote is the closing quote of one that is taken. -/
structure TakenFrom (text : List Char) (calls : List Call) : Prop where
  stand : ∀ call ∈ calls, call.StandsIn text
  apart : calls.Pairwise fun first second => first.finish ≤ second.offset
  missing :
    ∀ call : Call, call.StandsIn text →
      (call ∉ calls ↔
        ∃ other ∈ calls, other.closingQuote = call.openingQuote)

/-- Of two different calls that are taken, one ends before the other starts. -/
theorem finish_le_or_finish_le {calls : List Call} {first second : Call}
    (apart : calls.Pairwise fun first second => first.finish ≤ second.offset)
    (firstTaken : first ∈ calls) (secondTaken : second ∈ calls)
    (different : first ≠ second) :
    first.finish ≤ second.offset ∨ second.finish ≤ first.offset := by
  have eitherOrder :
      calls.Pairwise fun first second =>
        first.finish ≤ second.offset ∨ second.finish ≤ first.offset :=
    apart.imp Or.inl
  have symmetric :
      Std.Symm fun first second : Call =>
        first.finish ≤ second.offset ∨ second.finish ≤ first.offset :=
    ⟨fun _ _ => Or.symm⟩
  exact eitherOrder.forall firstTaken secondTaken different

theorem closingQuote_ne_openingQuote {calls : List Call} {call other : Call}
    (apart : calls.Pairwise fun first second => first.finish ≤ second.offset)
    (taken : call ∈ calls) (otherTaken : other ∈ calls) :
    other.closingQuote ≠ call.openingQuote := by
  rw [Call.closingQuote_eq, Call.openingQuote_eq]
  by_cases same : other = call
  · rw [same]
    omega
  · have order := finish_le_or_finish_le apart otherTaken taken same
    rw [Call.finish_eq, Call.finish_eq] at order
    omega

/-- The calls that the search takes are taken up to overlap. -/
theorem takenFrom_callsFrom (text : List Char) :
    TakenFrom text (callsFrom 0 0 text) := by
  have apart := pairwise_callsFrom 0 0 text
  refine ⟨?_, apart, ?_⟩
  · intro call taken
    obtain ⟨start, placed, _, found⟩ := exists_of_mem_callsFrom taken
    rw [Nat.zero_add] at placed
    rw [Call.standsIn_iff, placed]
    exact found
  · intro call stands
    constructor
    · intro missing
      have found := Call.standsIn_iff.1 stands
      rcases taken_or_overlapped found (Nat.zero_le call.offset) with
        taken | overlapped
      · rw [Nat.zero_add] at taken
        exact absurd taken missing
      · rwa [Nat.zero_add] at overlapped
    · rintro ⟨other, otherTaken, shared⟩ taken
      exact closingQuote_ne_openingQuote apart taken otherTaken shared

/-- Whether a call is taken depends only on the calls in front of it. -/
theorem TakenFrom.mem_of_mem {text : List Char} {calls others : List Call}
    (taken : TakenFrom text calls) (takenToo : TakenFrom text others)
    {call : Call} (member : call ∈ calls) : call ∈ others := by
  by_contra absent
  obtain ⟨other, otherMember, shared⟩ :=
    (takenToo.missing call (taken.stand call member)).1 absent
  have earlier : other.offset < call.offset := by
    rw [Call.closingQuote_eq, Call.openingQuote_eq] at shared
    omega
  have otherMemberToo : other ∈ calls :=
    takenToo.mem_of_mem taken otherMember
  exact closingQuote_ne_openingQuote taken.apart member otherMemberToo shared
termination_by call.offset

theorem TakenFrom.unique {text : List Char} {calls others : List Call}
    (taken : TakenFrom text calls) (takenToo : TakenFrom text others) :
    others = calls := by
  have sameMembers : ∀ call : Call, call ∈ others ↔ call ∈ calls := by
    intro call
    exact ⟨takenToo.mem_of_mem taken, taken.mem_of_mem takenToo⟩
  have inOrder : ∀ {list : List Call}, TakenFrom text list →
      list.Pairwise fun first second => first.offset < second.offset := by
    intro list takenList
    refine takenList.apart.imp ?_
    intro first second ends
    rw [Call.finish_eq] at ends
    omega
  have irreflexive :
      Std.Irrefl fun first second : Call => first.offset < second.offset :=
    ⟨fun call => Nat.lt_irrefl call.offset⟩
  have antisymmetric :
      Std.Antisymm fun first second : Call => first.offset < second.offset :=
    ⟨fun first second before after => absurd before (Nat.lt_asymm after)⟩
  exact (inOrder takenToo).eq_of_mem_iff (inOrder taken) sameMembers

theorem ofText_eq (text : List Char) :
    ofText text =
      if (callsFrom 0 0 text).isEmpty then .unavailable
      else .printed ((callsFrom 0 0 text).map Call.literal) := by
  rw [ofText, ← map_literal_callsFrom 0 0]
  cases callsFrom 0 0 text with
  | nil => rfl
  | cons call more => rfl

/-- In an unavailable preview no call was left out either. -/
theorem callsFrom_eq_nil_iff (text : List Char) :
    callsFrom 0 0 text = [] ↔ ¬ ∃ call : Call, call.StandsIn text := by
  have taken := takenFrom_callsFrom text
  constructor
  · rintro none ⟨call, stands⟩
    rw [none] at taken
    obtain ⟨other, otherTaken, _⟩ :=
      (taken.missing call stands).1 List.not_mem_nil
    cases otherTaken
  · intro noCall
    rw [List.eq_nil_iff_forall_not_mem]
    intro call member
    exact noCall ⟨call, taken.stand call member⟩

/-- A preview is unavailable exactly when no printing call stands in the text.
Otherwise it prints the literals of calls that stand there, none of which
overlaps another, in the order of the text. A call is left out exactly when the
quote that begins its literal ends the literal of one that is taken. There is
only one way to take calls like this. -/
theorem preview_takes_calls_up_to_overlap (text : List Char) :
    (ofText text = .unavailable ↔ ¬ ∃ call : Call, call.StandsIn text) ∧
      (∀ call : Call, call.StandsIn text →
        text[call.openingQuote]? = some '"' ∧
          text[call.closingQuote]? = some '"') ∧
      ∃ calls : List Call,
        TakenFrom text calls ∧
          (∀ others, TakenFrom text others → others = calls) ∧
          ((∃ call : Call, call.StandsIn text) →
            ofText text = .printed (calls.map Call.literal)) := by
  have taken := takenFrom_callsFrom text
  refine ⟨?_, fun call stands => stands.quotes, callsFrom 0 0 text, taken,
    fun others => taken.unique, ?_⟩
  · rw [← callsFrom_eq_nil_iff, ofText_eq, ← List.isEmpty_iff]
    cases (callsFrom 0 0 text).isEmpty <;> simp
  · intro someCall
    have nonempty : callsFrom 0 0 text ≠ [] := by
      intro none
      exact (callsFrom_eq_nil_iff text).1 none someCall
    rw [ofText_eq, if_neg (by simpa using nonempty)]

/-- Three calls in a chain, each of which begins with the last quote of the one
before it. -/
theorem preview_takes_calls_up_to_overlap_chain :
    ofText "print(\"print(\")print(\")print(\")".toList =
        .printed ["print(".toList, ")print(".toList] ∧
      ∃ calls,
        TakenFrom "print(\"print(\")print(\")print(\")".toList calls ∧
          ⟨0, "print(".toList⟩ ∈ calls ∧ ⟨7, ")print(".toList⟩ ∉ calls := by
  have firstStands :
      (⟨0, "print(".toList⟩ : Call).StandsIn
        "print(\"print(\")print(\")print(\")".toList :=
    ⟨[], "print(\")print(\")".toList, by decide, rfl, by decide⟩
  have secondStands :
      (⟨7, ")print(".toList⟩ : Call).StandsIn
        "print(\"print(\")print(\")print(\")".toList :=
    ⟨"print(\"".toList, "print(\")".toList, by decide, rfl, by decide⟩
  obtain ⟨_, _, calls, taken, _, _⟩ :=
    preview_takes_calls_up_to_overlap
      "print(\"print(\")print(\")print(\")".toList
  have firstTaken : ⟨0, "print(".toList⟩ ∈ calls := by
    by_contra absent
    obtain ⟨other, _, shared⟩ := (taken.missing _ firstStands).1 absent
    rw [Call.closingQuote_eq, Call.openingQuote_eq] at shared
    simp only at shared
    omega
  exact ⟨by decide, calls, taken, firstTaken,
    (taken.missing _ secondStands).2 ⟨_, firstTaken, rfl⟩⟩

end Preflight.Preview
