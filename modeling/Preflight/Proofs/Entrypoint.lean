import Preflight.Entrypoint
import Preflight.Proofs.Text.Word

/-!
# What declares an entrypoint

A declaration is a way to cut a text: an `f` that continues no word, a gap,
the name, another gap that may be empty, and an opening parenthesis. The
search finds a declaration exactly when there is such a cut, whatever
characters the name holds. Each part of the search gives one part of the cut.
-/

namespace Preflight.Entrypoint

open Text

/-- The texts that can be cut into a declaration of the name and what stands
around it. -/
def Declares (name text : List Char) : Prop :=
  ∃ before gap space behind : List Char,
    text = before ++ 'f' :: gap ++ name ++ space ++ '(' :: behind ∧
      (∀ c ∈ before.getLast?, isWordChar c = false) ∧
      gap ≠ [] ∧ (∀ c ∈ gap, isSpace c = true) ∧
      ∀ c ∈ space, isSpace c = true

/-- A call is opened behind a gap when the text can be cut there. -/
theorem opensCall_iff {text : List Char} :
    opensCall text = true ↔
      ∃ space behind,
        text = space ++ '(' :: behind ∧ ∀ c ∈ space, isSpace c = true := by
  constructor
  · intro opens
    have opensHere := of_decide_eq_true opens
    obtain ⟨behind, left⟩ := List.head?_eq_some_iff.1 opensHere
    refine ⟨text.takeWhile isSpace, behind, ?_, ?_⟩
    · rw [← left, List.takeWhile_append_dropWhile]
    · intro c member
      exact List.all_eq_true.1 List.all_takeWhile c member
  · rintro ⟨space, behind, rfl, spaces⟩
    have parenthesis : isSpace '(' = false := by decide
    have dropped :
        (space ++ '(' :: behind).dropWhile isSpace = '(' :: behind := by
      rw [List.dropWhile_append_of_pos spaces,
        List.dropWhile_cons_of_neg (by simp [parenthesis])]
    simp [opensCall, dropped]

theorem callsName_iff {name text : List Char} :
    callsName name text = true ↔
      ∃ space behind,
        text = name ++ space ++ '(' :: behind ∧
          ∀ c ∈ space, isSpace c = true := by
  unfold callsName
  constructor
  · intro calls
    cases found : dropStart? name text with
    | none => simp [found] at calls
    | some rest =>
        simp only [found] at calls
        obtain ⟨space, behind, rfl, spaces⟩ := opensCall_iff.1 calls
        refine ⟨space, behind, ?_, spaces⟩
        rw [dropStart?_eq_some_iff.1 found, List.append_assoc]
  · rintro ⟨space, behind, rfl, spaces⟩
    have found :
        dropStart? name (name ++ space ++ '(' :: behind) =
          some (space ++ '(' :: behind) := by
      rw [dropStart?_eq_some_iff, List.append_assoc]
    simp only [found]
    exact opensCall_iff.2 ⟨space, behind, rfl, spaces⟩

/-- Every length of the gap is tried, so white space at the ends of the name
is no obstacle. -/
theorem gapThenCalls_iff {name text : List Char} :
    gapThenCalls name text = true ↔
      ∃ gap space behind,
        text = gap ++ name ++ space ++ '(' :: behind ∧
          gap ≠ [] ∧ (∀ c ∈ gap, isSpace c = true) ∧
          ∀ c ∈ space, isSpace c = true := by
  induction text with
  | nil => simp [gapThenCalls]
  | cons c rest inductionHypothesis =>
      simp only [gapThenCalls, Bool.and_eq_true, Bool.or_eq_true,
        inductionHypothesis, callsName_iff]
      constructor
      · rintro ⟨white, ⟨space, behind, rfl, spaces⟩ |
          ⟨gap, space, behind, rfl, _, gaps, spaces⟩⟩
        · exact ⟨[c], space, behind, by simp, by simp, by simpa, spaces⟩
        · refine ⟨c :: gap, space, behind, by simp, by simp, ?_, spaces⟩
          exact List.forall_mem_cons.2 ⟨white, gaps⟩
      · rintro ⟨gap, space, behind, cut, nonempty, gaps, spaces⟩
        cases gap with
        | nil => exact absurd rfl nonempty
        | cons first more =>
            simp only [List.cons_append, List.cons.injEq] at cut
            obtain ⟨rfl, cutRest⟩ := cut
            have white := List.forall_mem_cons.1 gaps
            refine ⟨white.1, ?_⟩
            cases more with
            | nil => exact Or.inl ⟨space, behind, by simpa using cutRest, spaces⟩
            | cons second others =>
                exact Or.inr ⟨second :: others, space, behind, cutRest,
                  by simp, white.2, spaces⟩

/-- The search tries every `f` that continues no word. -/
theorem declaredFrom_iff {name text : List Char} {afterWord : Bool} :
    declaredFrom name afterWord text = true ↔
      ∃ before rest,
        text = before ++ 'f' :: rest ∧
          endsInWord afterWord before = false ∧
          gapThenCalls name rest = true := by
  induction text generalizing afterWord with
  | nil => simp [declaredFrom]
  | cons c rest inductionHypothesis =>
      simp only [declaredFrom, Bool.or_eq_true, Bool.and_eq_true,
        Bool.not_eq_true', decide_eq_true_eq, inductionHypothesis]
      constructor
      · rintro (⟨⟨starts, rfl⟩, calls⟩ | ⟨before, behind, rfl, starts, calls⟩)
        · exact ⟨[], rest, rfl, starts, calls⟩
        · refine ⟨c :: before, behind, rfl, ?_, calls⟩
          rwa [endsInWord_cons]
      · rintro ⟨before, behind, cut, starts, calls⟩
        cases before with
        | nil =>
            simp only [List.nil_append, List.cons.injEq] at cut
            obtain ⟨rfl, rfl⟩ := cut
            exact Or.inl ⟨⟨starts, rfl⟩, calls⟩
        | cons first more =>
            simp only [List.cons_append, List.cons.injEq] at cut
            obtain ⟨rfl, cutRest⟩ := cut
            rw [endsInWord_cons] at starts
            exact Or.inr ⟨more, behind, cutRest, starts, calls⟩

theorem declares_iff {name text : List Char} :
    Declares name text ↔
      ∃ before rest,
        text = before ++ 'f' :: rest ∧
          endsInWord false before = false ∧
          gapThenCalls name rest = true := by
  simp only [gapThenCalls_iff, endsInWord_false_iff]
  constructor
  · rintro ⟨before, gap, space, behind, rfl, starts, nonempty, gaps, spaces⟩
    exact ⟨before, gap ++ name ++ space ++ '(' :: behind, by simp, starts,
      gap, space, behind, rfl, nonempty, gaps, spaces⟩
  · rintro ⟨before, rest, rfl, starts,
      gap, space, behind, rfl, nonempty, gaps, spaces⟩
    exact ⟨before, gap, space, behind, by simp, starts, nonempty, gaps,
      spaces⟩

theorem isDeclared_iff {name text : List Char} :
    isDeclared name text = true ↔ Declares name text := by
  rw [isDeclared, declaredFrom_iff, declares_iff]

/-! ## Declarations in joined texts -/

theorem Declares.append {name first : List Char}
    (declared : Declares name first) (second : List Char) :
    Declares name (first ++ second) := by
  obtain ⟨before, gap, space, behind, rfl, rest⟩ := declared
  exact ⟨before, gap, space, behind ++ second, by simp, rest⟩

theorem Declares.prepend {name second : List Char} {c : Char}
    (declared : Declares name second) (outside : isWordChar c = false)
    (first : List Char) : Declares name (first ++ c :: second) := by
  obtain ⟨before, gap, space, behind, rfl, starts, rest⟩ := declared
  refine ⟨first ++ c :: before, gap, space, behind, by simp, ?_, rest⟩
  cases before with
  | nil => simpa using outside
  | cons d more => simpa [List.getLast?_append, List.getLast?_cons] using starts

end Preflight.Entrypoint
