import Preflight.Yaml.Node
import Preflight.Yaml.Token

/-!
# Reading YAML nodes

A node is read off the front of a row of tokens, together with the anchors in
it. What is missing where a node may be missing is an empty plain scalar.
-/

namespace Preflight.Yaml

/-- The state of reading nodes. -/
structure Reading where
  tokens : List Token
  /-- The tag handles with what they stand for. -/
  handles : List (String × String) := standardHandles
  anchors : Anchors := {}
  deriving Repr

/-- Reading a part of a row of tokens, which may fail. -/
abbrev Read := StateT Reading Option

namespace Read

def next? : Read (Option Token) := do
  return (← get).tokens.head?

def skip : Read Unit :=
  modify fun reading => { reading with tokens := reading.tokens.tail }

/-- Whether the next token is one of these. -/
def sees (tokens : List Token) : Read Bool := do
  return (← next?).any tokens.contains

/-- Pass over a token if it comes next, and say whether it did. -/
def accept (token : Token) : Read Bool := do
  if ← sees [token] then
    skip
    return true
  else return false

def expect (token : Token) : Read Unit := do
  if ← accept token then return ()
  else failure

/-- Read a node unless one of these tokens comes next, where it is
missing. -/
def nodeUnless (tokens : List Token) (node : Read Node) : Read Node := do
  if ← sees tokens then return .empty
  else node

/-! ## Properties -/

def anchor? : Read (Option String) := do
  match ← next? with
  | some (.anchor name) =>
      skip
      return some name
  | _ => return none

def tag? : Read (Option Tag) := do
  match ← next? with
  | some (.tag tag) =>
      skip
      return some tag
  | _ => return none

/-- The anchor and the tag in front of a node, in either order. -/
def properties : Read (Option String × Option Tag) := do
  match ← anchor? with
  | some name => return (some name, ← tag?)
  | none =>
      match ← tag? with
      | some tag => return (← anchor?, some tag)
      | none => return (none, none)

/-- A tag in full; its handle has to be declared. -/
def resolve : Option Tag → Read (Option String)
  | none => return none
  | some tag => do
      match tag.resolve? (← get).handles with
      | some resolved => return some resolved
      | none => failure

/-- Give a name to a scalar, or to a collection that is about to be read. -/
def name (anchor : Option String) (scalar? : Option Scalar) : Read Unit :=
  match anchor with
  | none => return ()
  | some name =>
      modify fun reading =>
        { reading with anchors := reading.anchors.add name scalar? }

/-- A scalar with its name. -/
def named (anchor : Option String) (scalar : Scalar) : Read Node := do
  name anchor (some scalar)
  return .scalar scalar

/-- The empty scalar that an anchor or a tag without a node behind it stands
for; without either a node is missing. -/
def bare (anchor : Option String) (tag : Option Tag)
    (resolved : Option String) : Read Node :=
  if anchor.isSome || tag.isSome then named anchor (.empty resolved)
  else failure

/-- The node that a name refers to. -/
def referred (name : String) : Read Node := do
  match (← get).anchors.number? name with
  | some number => return .reference number
  | none => failure

/-! ## Flow collections -/

/-- Whether a flow collection ends here. Otherwise its next entry follows,
behind a comma unless it is the first. -/
def closes (closing : Token) (isFirst : Bool) : Read Bool := do
  if ← accept closing then return true
  else if isFirst then return false
  else
    expect .comma
    accept closing

/-- The key that was announced in a flow sequence. The sign of its value, a
comma or the closing bracket in its place counts as an empty key. -/
def keyInSequence (node : Read Node) : Read Node := do
  if ← sees [.value, .comma, .rightBracket] then
    skip
    return .empty
  else node

/-- The value of an entry of a flow collection, which may be missing with or
without its sign. -/
def flowValue (closing : Token) (node : Read Node) : Read Node := do
  if ← accept .value then nodeUnless [.comma, closing] node
  else return .empty

/-! ## Nodes -/

mutual

/-- Read a node. Block collections are allowed where `inBlock` says so, and a
block sequence that shares its column with the mapping around it where
`inMapping` says so. -/
def node : (fuel : Nat) → (inBlock inMapping : Bool) → Read Node
  | 0, _, _ => failure
  | fuel + 1, inBlock, inMapping => do
      if let some (.reference name) ← next? then
        skip
        referred name
      else
        let (anchor, tag) ← properties
        let resolved ← resolve tag
        let next ← next?
        if inMapping && next = some .item then
          name anchor none
          return .sequence (← alignedItems fuel)
        else
          match next with
          | some (.scalar style text) =>
              skip
              named anchor ⟨style, resolved, text⟩
          | some .leftBracket =>
              skip
              name anchor none
              return .sequence (← flowItems fuel true)
          | some .leftBrace =>
              skip
              name anchor none
              return .mapping (← flowEntries fuel true)
          | some .sequenceStart =>
              if inBlock then
                skip
                name anchor none
                return .sequence (← items fuel)
              else bare anchor tag resolved
          | some .mappingStart =>
              if inBlock then
                skip
                name anchor none
                return .mapping (← entries fuel)
              else bare anchor tag resolved
          | _ => bare anchor tag resolved

/-- Read the items of a block sequence up to its end. -/
def items : (fuel : Nat) → Read (List Node)
  | 0 => failure
  | fuel + 1 => do
      if ← accept .blockEnd then return []
      else
        expect .item
        let item ← nodeUnless [.item, .blockEnd] (node fuel true false)
        return item :: (← items fuel)

/-- Read the items of a block sequence that shares its column with the mapping
around it. -/
def alignedItems : (fuel : Nat) → Read (List Node)
  | 0 => failure
  | fuel + 1 => do
      if ← accept .item then
        let item ←
          nodeUnless [.item, .key, .value, .blockEnd] (node fuel true false)
        return item :: (← alignedItems fuel)
      else return []

/-- Read the entries of a block mapping up to its end. -/
def entries : (fuel : Nat) → Read (List (Node × Node))
  | 0 => failure
  | fuel + 1 => do
      if ← accept .blockEnd then return []
      else
        expect .key
        let part := nodeUnless [.key, .value, .blockEnd] (node fuel true true)
        let key ← part
        let value ← if ← accept .value then part else pure .empty
        return (key, value) :: (← entries fuel)

/-- Read the items of a flow sequence up to its end. An item may be a single
entry of a mapping. -/
def flowItems : (fuel : Nat) → (isFirst : Bool) → Read (List Node)
  | 0, _ => failure
  | fuel + 1, isFirst => do
      if ← closes .rightBracket isFirst then return []
      else
        let part := node fuel false false
        let item ←
          if ← accept .key then do
            let key ← keyInSequence part
            let value ← flowValue .rightBracket part
            pure (.mapping [(key, value)])
          else part
        return item :: (← flowItems fuel false)

/-- Read the entries of a flow mapping up to its end. An entry may be a key
alone. -/
def flowEntries : (fuel : Nat) → (isFirst : Bool) →
    Read (List (Node × Node))
  | 0, _ => failure
  | fuel + 1, isFirst => do
      if ← closes .rightBrace isFirst then return []
      else
        let part := node fuel false false
        let entry ←
          if ← accept .key then do
            let key ← nodeUnless [.value, .comma, .rightBrace] part
            pure (key, ← flowValue .rightBrace part)
          else pure (← part, .empty)
        return entry :: (← flowEntries fuel false)

end

end Read

end Preflight.Yaml
