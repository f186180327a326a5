import Preflight.Yaml.Scalar.Basic

/-!
# YAML nodes

A node is a scalar, a sequence or a mapping, or a reference to a node with a
name. Mappings keep their entries in the order of the text, repeated keys among
them. Names are given to nodes as the text goes on, and one name may be given
again: a reference means the node that has its name at that place.
-/

namespace Preflight.Yaml

/-- A node of a document. -/
inductive Node where
  | scalar (scalar : Scalar)
  | sequence (items : List Node)
  | mapping (entries : List (Node × Node))
  /-- The node whose anchor has this number. -/
  | reference (number : Nat)
  deriving Repr

/-- The node of a place where a node may stand and none does. -/
def Node.empty : Node := .scalar (.empty none)

/-- The anchors of a document. The number of an anchor is the number of names
in use in front of it; of several anchors with one number the last counts. -/
structure Anchors where
  /-- The names in use with the numbers of their last anchors. -/
  numbers : List (String × Nat) := []
  /-- The anchored scalars by number, and nothing for collections; the last one
  first. -/
  scalars : List (Nat × Option Scalar) := []
  deriving Repr

namespace Anchors

def add (name : String) (scalar? : Option Scalar) (anchors : Anchors) :
    Anchors :=
  let number := anchors.numbers.length
  { numbers :=
      (name, number) :: anchors.numbers.filter fun entry => entry.1 ≠ name
    scalars := (number, scalar?) :: anchors.scalars }

/-- The number that a name refers to. -/
def number? (name : String) (anchors : Anchors) : Option Nat :=
  anchors.numbers.lookup name

/-- The scalar that a node is or refers to. -/
def scalar? (anchors : Anchors) : Node → Option Scalar
  | .scalar scalar => some scalar
  | .reference number => (anchors.scalars.lookup number).getD none
  | .sequence _ | .mapping _ => none

end Anchors

end Preflight.Yaml
