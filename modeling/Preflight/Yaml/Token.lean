import Preflight.Yaml.Scalar.Basic
import Preflight.Yaml.Tag

/-!
# YAML tokens

A text is a row of tokens. Brackets structure flow collections. Block
collections, which are told by indentation, have tokens for their start and
their end; a key has a token in front of it even where the text has none.
-/

namespace Preflight.Yaml

/-- A token. -/
inductive Token where
  | directive (directive : Directive)
  | documentStart
  | documentEnd
  | sequenceStart
  | mappingStart
  | blockEnd
  | leftBracket
  | rightBracket
  | leftBrace
  | rightBrace
  | comma
  /-- The sign of an item of a block sequence. -/
  | item
  | key
  | value
  /-- A name for the node that follows. -/
  | anchor (name : String)
  /-- The node with this name. -/
  | reference (name : String)
  | tag (tag : Tag)
  | scalar (style : Style) (text : String)
  deriving DecidableEq, Repr

end Preflight.Yaml
