/-!
# Parts that end at a character

A part of a text that does not hold the character behind it is told from what
follows: it ends where that character stands for the first time.
-/

namespace Preflight.Text

variable {stop : Char} {first second rest otherRest : List Char}

/-- What stands in front of the first of several stops is the beginning of what
stands in front of any of them. -/
theorem prefix_of_append_stop (notInFirst : stop ∉ first)
    (same : first ++ stop :: rest = second ++ stop :: otherRest) :
    first <+: second := by
  rcases List.append_eq_append_iff.1 same with
    ⟨more, isLonger, _⟩ | ⟨more, isShorter, stops⟩
  · exact ⟨more, isLonger.symm⟩
  · cases more with
    | nil =>
        rw [List.append_nil] at isShorter
        exact ⟨[], by rw [isShorter, List.append_nil]⟩
    | cons c others =>
        have isStop := (List.cons.inj stops).1
        rw [isShorter, ← isStop] at notInFirst
        exact absurd (List.mem_append_right second List.mem_cons_self)
          notInFirst

theorem append_stop_inj (notInFirst : stop ∉ first) (notInSecond : stop ∉ second)
    (same : first ++ stop :: rest = second ++ stop :: otherRest) :
    first = second ∧ rest = otherRest := by
  have starts := prefix_of_append_stop notInFirst same
  have startsToo := prefix_of_append_stop notInSecond same.symm
  have sameLength := Nat.le_antisymm starts.length_le startsToo.length_le
  have parts := List.append_inj same sameLength
  exact ⟨parts.1, (List.cons.inj parts.2).2⟩

end Preflight.Text
