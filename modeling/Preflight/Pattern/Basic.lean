import Preflight.Pattern.CharClass

/-!
# Patterns

A pattern says what a piece of a text may look like. Whether a piece of a text
matches is found without backtracking: the gaps between the characters are
marked, and each pattern moves the marks from the gaps where a match may start
to those where it may end.
-/

namespace Preflight

namespace Pattern

/-- The sides of a gap that have to be parts of a word. -/
inductive WordEdge where
  /-- One side and not the other. -/
  | boundary
  /-- Both sides or neither. -/
  | inside
  /-- The side behind the gap and not the one in front of it. -/
  | start
  /-- The side in front of the gap and not the one behind it. -/
  | finish
  /-- Not the side in front of the gap. -/
  | startHalf
  /-- Not the side behind the gap. -/
  | finishHalf
  deriving DecidableEq, Repr

/-- Whether an edge of a word lies between two sides. -/
def WordEdge.holds (before after : Bool) : WordEdge → Bool
  | boundary => before != after
  | inside => before == after
  | start => !before && after
  | finish => before && !after
  | startHalf => !before
  | finishHalf => !after

/-- Which characters end a line. -/
inductive LineEnd where
  | feed
  /-- Feeds, returns, and the two as one. -/
  | returnOrFeed
  deriving DecidableEq, Repr

/-- What a pattern asks of a gap. -/
inductive Assertion where
  | textStart
  | textFinish
  | lineStart (lineEnd : LineEnd)
  | lineFinish (lineEnd : LineEnd)
  /-- An edge of a word, whose parts are given by a class. -/
  | word (edge : WordEdge) (parts : CharClass)
  deriving DecidableEq, Repr

/-- Whether an assertion holds of the gap between two characters, each of which
is missing at an end of the text. -/
def Assertion.holds (before after : Option Char) : Assertion → Bool
  | textStart => before.isNone
  | textFinish => after.isNone
  | lineStart .feed => before.all (· = '\n')
  | lineStart .returnOrFeed =>
      before.all fun c => c = '\n' || (c = '\r' && after ≠ some '\n')
  | lineFinish .feed => after.all (· = '\n')
  | lineFinish .returnOrFeed =>
      after.all fun c => c = '\r' || (c = '\n' && before ≠ some '\r')
  | word edge parts =>
      edge.holds (before.any parts.contains) (after.any parts.contains)

end Pattern

/-- A pattern. -/
inductive Pattern where
  /-- Nothing at all. -/
  | empty
  /-- A character of a class. -/
  | one (among : Pattern.CharClass)
  /-- A gap of which an assertion holds. -/
  | gap (assertion : Pattern.Assertion)
  /-- One pattern and another behind it. -/
  | sequence (first second : Pattern)
  /-- One of two patterns. -/
  | choice (left right : Pattern)
  /-- A pattern so often in a row; without an upper bound any number of times
  from the lower one on. -/
  | repeated (least : Nat) (most : Option Nat) (body : Pattern)
  deriving DecidableEq, Repr

namespace Pattern

/-- Which gaps of a text are marked, from the one in front of it to the one
behind it. -/
abbrev Marks := List Bool

/-- The characters on the two sides of each gap of a text. -/
def gaps (text : List Char) : List (Option Char × Option Char) :=
  (none :: text.map some).zip (text.map some ++ [none])

/-- The gaps that are marked in either of two. -/
def join (left right : Marks) : Marks :=
  List.zipWith (fun a b => a || b) left right

/-- Take a step so often, or until it changes nothing any more. -/
def steps (step : Marks → Marks) : (count : Nat) → Marks → Marks
  | 0, marks => marks
  | count + 1, marks =>
      let next := step marks
      if next = marks then marks else steps step count next

/-- The gaps that are reached by taking a step at most so often. -/
def reach (step : Marks → Marks) (count : Nat) (marks : Marks) : Marks :=
  steps (fun marks => join marks (step marks)) count marks

/-- The gaps where matches of a pattern end that start at marked gaps. Without
an upper bound, repetitions that get anywhere are no more than there are
gaps. -/
def ends (text : List Char) : Pattern → Marks → Marks
  | empty, marks => marks
  | one among, marks =>
      false :: List.zipWith (fun mark c => mark && among.contains c) marks text
  | gap assertion, marks =>
      List.zipWith (fun mark (before, after) =>
        mark && assertion.holds before after) marks (gaps text)
  | sequence first second, marks => ends text second (ends text first marks)
  | choice left right, marks =>
      join (ends text left marks) (ends text right marks)
  | repeated least most body, marks =>
      let step := fun marks => ends text body marks
      let further :=
        match most with
        | some most => most - least
        | none => text.length + 1
      reach step further (steps step least marks)

/-- Whether a piece of a text matches a pattern. -/
def occursIn (pattern : Pattern) (text : List Char) : Bool :=
  (pattern.ends text (List.replicate (text.length + 1) true)).any id

/-- The patterns in a row. -/
def inSequence (patterns : List Pattern) : Pattern :=
  patterns.foldr sequence empty

/-- The alternative of patterns, of which there is at least one. -/
def inChoice (first : Pattern) (others : List Pattern) : Pattern :=
  others.foldl choice first

end Pattern

end Preflight
