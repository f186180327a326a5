import Preflight.Delimiter.Basic

/-!
# The nesting grammar

A text nests when it is empty, a character that is no delimiter in front of a
nesting text, or a delimiter pair around one nesting text in front of another.
-/

namespace Preflight.Delimiter

/-- The texts whose delimiters nest and close. -/
inductive Nested : List Char → Prop
  | empty : Nested []
  | neutral {c : Char} {rest : List Char} :
      c ∉ characters → Nested rest → Nested (c :: rest)
  | pair (delimiter : Delimiter) {inner rest : List Char} :
      Nested inner → Nested rest →
      Nested (delimiter.opener :: inner ++ delimiter.closer :: rest)

/-- Nesting texts may follow one another. -/
theorem Nested.append {first second : List Char}
    (firstNested : Nested first) (secondNested : Nested second) :
    Nested (first ++ second) := by
  induction firstNested with
  | empty => exact secondNested
  | neutral isNeutral _ inductionHypothesis =>
      exact .neutral isNeutral inductionHypothesis
  | pair delimiter innerNested _ _ inductionHypothesis =>
      have nested := Nested.pair delimiter innerNested inductionHypothesis
      simpa using nested

end Preflight.Delimiter
