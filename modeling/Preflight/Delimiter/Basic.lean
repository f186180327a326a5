/-!
# Delimiters

Three pairs of characters must nest and close. All other characters, quotes
and comment signs among them, are neutral: delimiters inside string literals
and comments count like any others.
-/

namespace Preflight

/-- The three kinds of delimiter pairs. -/
inductive Delimiter where
  | round
  | curly
  | square
  deriving DecidableEq, Repr

namespace Delimiter

/-- The character that opens a pair. -/
def opener : Delimiter → Char
  | round => '('
  | curly => '\x7b'
  | square => '['

/-- The character that closes a pair. -/
def closer : Delimiter → Char
  | round => ')'
  | curly => '\x7d'
  | square => ']'

/-- The six delimiters. -/
def characters : List Char := ['(', ')', '[', ']', '\x7b', '\x7d']

/-- What a character does to the nesting. -/
inductive Role where
  | opens (delimiter : Delimiter)
  | closes (delimiter : Delimiter)
  | neutral
  deriving DecidableEq, Repr

/-- The role of a character: all six delimiters have one, no other character
does. -/
def role (c : Char) : Role :=
  if c = '(' then .opens round
  else if c = '\x7b' then .opens curly
  else if c = '[' then .opens square
  else if c = ')' then .closes round
  else if c = '\x7d' then .closes curly
  else if c = ']' then .closes square
  else .neutral

theorem role_eq_opens_iff {c : Char} {delimiter : Delimiter} :
    role c = .opens delimiter ↔ c = delimiter.opener := by
  unfold role
  cases delimiter <;> grind [opener]

theorem role_eq_closes_iff {c : Char} {delimiter : Delimiter} :
    role c = .closes delimiter ↔ c = delimiter.closer := by
  unfold role
  cases delimiter <;> grind [closer]

theorem role_eq_neutral_iff {c : Char} :
    role c = .neutral ↔ c ∉ characters := by
  unfold role characters
  grind

@[simp]
theorem role_opener (delimiter : Delimiter) :
    role delimiter.opener = .opens delimiter :=
  role_eq_opens_iff.2 rfl

@[simp]
theorem role_closer (delimiter : Delimiter) :
    role delimiter.closer = .closes delimiter :=
  role_eq_closes_iff.2 rfl

end Delimiter

end Preflight
