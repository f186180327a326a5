import Preflight.Text.Space
import Preflight.Text.Word

/-!
# Entrypoint declarations

A program starts in the function declared as `f name(`. White space is
required after the `f` and allowed before the parenthesis, and either gap may
span lines. The `f` must not continue a word. The name is taken literally,
whatever characters it holds.
-/

namespace Preflight.Entrypoint

open Text

/-- Whether a text goes on with an opening parenthesis after any amount of
white space. -/
def opensCall (text : List Char) : Bool :=
  (text.dropWhile isSpace).head? = some '('

/-- Whether a text goes on with the name and then opens a call. -/
def callsName (name text : List Char) : Bool :=
  match dropStart? name text with
  | some rest => opensCall rest
  | none => false

/-- Whether a text goes on with white space, at least one character of it, and
then calls the name. The name may start with white space itself, so every
length of the gap is tried. -/
def gapThenCalls (name : List Char) : List Char → Bool
  | [] => false
  | c :: rest =>
      isSpace c && (callsName name rest || gapThenCalls name rest)

/-- Whether the entrypoint is declared in the rest of a text. `afterWord` says
whether the character before it is a word character. -/
def declaredFrom (name : List Char) : (afterWord : Bool) → List Char → Bool
  | _, [] => false
  | afterWord, c :: rest =>
      (!afterWord && c = 'f' && gapThenCalls name rest)
        || declaredFrom name (isWordChar c) rest

/-- Whether the entrypoint of this name is declared in a text. -/
def isDeclared (name text : List Char) : Bool :=
  declaredFrom name false text

end Preflight.Entrypoint
