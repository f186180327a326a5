/-!
# Scalars

A scalar is a text with the style in which it was written and, if one was
given, its tag. The style matters where a text could stand for a number.
-/

namespace Preflight.Yaml

/-- How a scalar is written. -/
inductive Style where
  | plain
  | quoted
  /-- A block whose lines stay as they are. -/
  | literal
  /-- A block whose lines are joined. -/
  | folded
  deriving DecidableEq, Repr

/-- A scalar of a document. -/
structure Scalar where
  style : Style
  tag : Option String := none
  text : String
  deriving DecidableEq, Repr

/-- The scalar of a place where a node may stand and none does. -/
def Scalar.empty (tag : Option String) : Scalar := ⟨.plain, tag, ""⟩

end Preflight.Yaml
