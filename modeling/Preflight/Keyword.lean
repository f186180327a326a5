import Preflight.Text.Word

/-!
# Keyword vocabularies

FORMA spells its keywords in two ways, a shorthand and a long form. Keywords
are found by text alone, inside strings and comments too, and only as whole
words: a keyword has a word boundary on either side, where a boundary lies
between a word character and anything else.
-/

namespace Preflight

open Text

/-- The two spellings of the keywords. -/
inductive Vocabulary where
  | shorthand
  | longform
  deriving DecidableEq, Repr

namespace Vocabulary

/-- Both vocabularies, the shorthand first. -/
def all : List Vocabulary := [shorthand, longform]

def words : Vocabulary → List String
  | shorthand =>
      ["f", "s", "e", "t", "i", "m", "us", "wh", "lp", "br", "ct", "ret",
        "as", "sp", "aw"]
  | longform =>
      ["fn", "struct", "enum", "trait", "impl", "match", "use", "while",
        "loop", "break", "continue", "return", "async", "spawn", "await"]

end Vocabulary

namespace Keyword

/-- Whether a word boundary lies between the character before a place and the
text after it. -/
def isBoundary (afterWord : Bool) : List Char → Bool
  | [] => afterWord
  | c :: _ => afterWord != isWordChar c

/-- Whether `word` starts a text and ends there at a word boundary. -/
def startsWith (word text : List Char) : Bool :=
  match dropStart? word text with
  | some rest => isBoundary (word.getLast?.any isWordChar) rest
  | none => false

/-- The first of the words that stands whole at a place of the text, between
two word boundaries. -/
def standing? (words : List (List Char)) (afterWord : Bool)
    (text : List Char) : Option (List Char) :=
  if isBoundary afterWord text then words.find? (startsWith · text) else none

/-- Count the places where one of the words stands, searching from left to
right and going on behind each word found. `afterWord` says whether the
character before the text is a word character, and `skipped` how many
characters still belong to the word found last. -/
def countFrom (words : List (List Char)) :
    (afterWord : Bool) → (skipped : Nat) → List Char → Nat
  | _, _, [] => 0
  | _, skipped + 1, c :: rest => countFrom words (isWordChar c) skipped rest
  | afterWord, 0, c :: rest =>
      match standing? words afterWord (c :: rest) with
      | some word =>
          countFrom words (isWordChar c) (word.length - 1) rest + 1
      | none => countFrom words (isWordChar c) 0 rest

end Keyword

/-- How many keywords of a vocabulary a text holds. -/
def Vocabulary.count (vocabulary : Vocabulary) (text : List Char) : Nat :=
  Keyword.countFrom (vocabulary.words.map String.toList) false 0 text

end Preflight
