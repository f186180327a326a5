import Preflight.Yaml.Node.Reader
import Preflight.Yaml.Token.Lexer

/-!
# YAML documents

A text holds at most one document. Directives and a marker may stand in front
of it, markers behind it. A text without tokens holds no document, and a
document without tokens is an empty scalar.
-/

namespace Preflight.Yaml

/-- A document. -/
structure Document where
  root : Node
  anchors : Anchors
  deriving Repr

namespace Document

/-- The scalar that a node of the document is or refers to. -/
def scalar? (document : Document) (node : Node) : Option Scalar :=
  document.anchors.scalar? node

/-- The directives at the start of a row of tokens, and what follows them. -/
def splitDirectives : List Token → List Directive × List Token
  | .directive directive :: tokens =>
      let (directives, rest) := splitDirectives tokens
      (directive :: directives, rest)
  | tokens => ([], tokens)

/-- The versions that directives give. -/
def versions (directives : List Directive) : List (Nat × Nat) :=
  directives.filterMap fun
    | .version major minor => some (major, minor)
    | .handle _ _ => none

/-- The handles that directives declare. -/
def declarations (directives : List Directive) : List (String × String) :=
  directives.filterMap fun
    | .version _ _ => none
    | .handle handle start => some (handle, start)

/-- Whether directives give at most one version, which is known, and declare no
handle twice. -/
def areSound (directives : List Directive) : Bool :=
  (versions directives).length ≤ 1 &&
    (versions directives).all (· ∈ [(1, 1), (1, 2)]) &&
    ((declarations directives).map (·.1)).Nodup

/-- Read the root of a document whose start has been announced. It may be
missing. -/
def announcedRoot (fuel : Nat) : Read Node := do
  match ← Read.next? with
  | none | some (.directive _) | some .documentStart | some .documentEnd =>
      return .empty
  | some _ => Read.node fuel true false

/-- Read the only document of a row of tokens. -/
def ofTokens? (tokens : List Token) : Option Document := do
  let fuel := 2 * tokens.length + 2
  let (directives, rest) := splitDirectives tokens
  let (root, reading) ←
    match rest with
    | .documentStart :: content =>
        if areSound directives then
          (announcedRoot fuel).run
            { tokens := content
              handles := declarations directives ++ standardHandles }
        else none
    | _ =>
        if directives.isEmpty then
          (Read.node fuel true false).run { tokens }
        else none
  if (reading.tokens.dropWhile (· = .documentEnd)).isEmpty then
    return ⟨root, reading.anchors⟩
  else none

end Document

/-- The document that a text spells, if it is YAML, and nothing for a text
without tokens. -/
def parse? (text : List Char) : Option (Option Document) := do
  if text.all isAllowed then
    let tokens ← tokens? (uniformBreaks text)
    if tokens.isEmpty then return none
    else return some (← Document.ofTokens? tokens)
  else none

end Preflight.Yaml
