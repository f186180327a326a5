/-!
# Positions in a text

Lines and columns count from one. The column counts characters since the last
line feed, a carriage return among them.
-/

namespace Preflight

/-- The place of a character. -/
structure Position where
  line : Nat
  column : Nat
  deriving DecidableEq, Repr

namespace Position

/-- The place before the first character of a text. -/
def beforeText : Position := ⟨1, 0⟩

/-- The place of a character that follows the given place. A line feed stands
at column zero of the line that it begins. -/
def next (before : Position) (c : Char) : Position :=
  if c = '\n' then ⟨before.line + 1, 0⟩ else ⟨before.line, before.column + 1⟩

/-- The place of the last character of a text that follows the given place. -/
def after (before : Position) (text : List Char) : Position :=
  text.foldl next before

/-- The place of the character at an offset of a text. -/
def ofOffset (text : List Char) (offset : Nat) : Position :=
  beforeText.after (text.take (offset + 1))

@[simp]
theorem after_nil (before : Position) : before.after [] = before :=
  rfl

@[simp]
theorem after_cons (before : Position) (c : Char) (rest : List Char) :
    before.after (c :: rest) = (before.next c).after rest :=
  rfl

theorem after_append (before : Position) (first second : List Char) :
    before.after (first ++ second) = (before.after first).after second :=
  List.foldl_append

/-- Reading on either reaches a later line or, on the same line, moves one
column with each character. -/
theorem after_advances (before : Position) (text : List Char) :
    before.line < (before.after text).line ∨
      (before.after text).line = before.line ∧
        (before.after text).column = before.column + text.length := by
  induction text generalizing before with
  | nil =>
      exact Or.inr ⟨rfl, rfl⟩
  | cons c rest inductionHypothesis =>
      rw [after_cons]
      have later := inductionHypothesis (before.next c)
      by_cases feed : c = '\n'
      · simp only [next, if_pos feed] at later ⊢
        omega
      · simp only [next, if_neg feed, List.length_cons] at later ⊢
        omega

theorem eq_nil_of_after_eq_self {before : Position} {text : List Char}
    (same : before.after text = before) : text = [] := by
  rcases before.after_advances text with laterLine | ⟨_, laterColumn⟩
  · rw [same] at laterLine
    omega
  · rw [same] at laterColumn
    exact List.eq_nil_of_length_eq_zero (by omega)

/-- A place in a text tells which part of the text stands before it. -/
theorem eq_of_after_eq {before : Position} {first second text : List Char}
    (firstStarts : first <+: text) (secondStarts : second <+: text)
    (same : before.after first = before.after second) : first = second := by
  rcases List.prefix_or_prefix_of_prefix firstStarts secondStarts with
    ⟨more, rfl⟩ | ⟨more, rfl⟩
  · rw [after_append] at same
    rw [eq_nil_of_after_eq_self same.symm, List.append_nil]
  · rw [after_append] at same
    rw [eq_nil_of_after_eq_self same, List.append_nil]

theorem ofOffset_append_cons (before rest : List Char) (c : Char) :
    ofOffset (before ++ c :: rest) before.length =
      beforeText.after (before ++ [c]) := by
  have whole : before ++ c :: rest = (before ++ [c]) ++ rest := by simp
  have reach : before.length + 1 = (before ++ [c]).length := by simp
  rw [ofOffset, whole, reach, List.take_append_length]

/-- Different offsets of a text have different places. -/
theorem eq_of_ofOffset_eq {text : List Char} {first second : Nat}
    (firstInside : first < text.length) (secondInside : second < text.length)
    (same : ofOffset text first = ofOffset text second) : first = second := by
  have samePart : text.take (first + 1) = text.take (second + 1) :=
    eq_of_after_eq (List.take_prefix _ _) (List.take_prefix _ _) same
  have sameLength := congrArg List.length samePart
  simp only [List.length_take] at sameLength
  omega

end Position

end Preflight
