/-!
# Words

Words are made of ASCII letters, digits and underscores. A letter outside
ASCII is not part of a word, so it never joins a word beside it.
-/

namespace Preflight.Text

/-- The characters a word is made of. -/
def isWordChar (c : Char) : Bool :=
  c.isAlphanum || c = '_'

/-- A word starts with a letter or an underscore and goes on with word
characters when it may serve as a name in a program. -/
def isIdentifier : List Char → Bool
  | [] => false
  | c :: rest => (c.isAlpha || c = '_') && rest.all isWordChar

/-- What follows `start` in `text`, when `text` starts with it. -/
def dropStart? : (start text : List Char) → Option (List Char)
  | [], text => some text
  | _ :: _, [] => none
  | s :: start, c :: text => if s = c then dropStart? start text else none

/-- A start is dropped exactly when it stands in front of what is left. -/
theorem dropStart?_eq_some_iff {start text rest : List Char} :
    dropStart? start text = some rest ↔ text = start ++ rest := by
  induction start generalizing text with
  | nil => simp [dropStart?]
  | cons s start inductionHypothesis =>
      cases text with
      | nil => simp [dropStart?]
      | cons c text =>
          by_cases same : s = c
          · simp [dropStart?, same, inductionHypothesis]
          · simp [dropStart?, same, Ne.symm same]

end Preflight.Text
