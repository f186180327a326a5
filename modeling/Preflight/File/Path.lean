/-!
# Paths

A path is what stands between the slashes of its text, kept as it is written.
Going up to the parent is done on the text alone: the last component is
dropped, and `..` counts as a component like any other. Empty components and
single dots are void: they lead nowhere and are passed over at the end of a
path.
-/

namespace Preflight.File

/-- A path, given by what stands between its slashes. -/
structure Path where
  components : List String
  deriving DecidableEq, Repr

namespace Path

def ofString (text : String) : Path :=
  ⟨(text.toList.splitOn '/').map String.ofList⟩

def toString (path : Path) : String :=
  String.intercalate "/" path.components

/-- Components that lead nowhere. -/
def isVoid (component : String) : Bool :=
  component = "" || component = "."

/-- Components without the void ones at their end. -/
def dropVoidEnd (components : List String) : List String :=
  (components.reverse.dropWhile isVoid).reverse

/-- The path of a name inside a directory. There is one slash before the name,
even if the path of the directory ends in one. -/
def join (directory : Path) (name : String) : Path :=
  if directory.components.getLast? = some "" then
    ⟨directory.components.dropLast ++ [name]⟩
  else ⟨directory.components ++ [name]⟩

/-- The part of a path that going up does not split: the slash of an absolute
path, or a dot in front of a relative one. It is given as the components of
that part alone. -/
def anchor? (path : Path) : Option String :=
  path.components.head?.filter isVoid

/-- The components behind the anchor. -/
def body (path : Path) : List String :=
  if path.anchor?.isSome then path.components.drop 1 else path.components

/-- The path with an anchor and the components behind it. -/
def ofParts (anchor? : Option String) (body : List String) : Path :=
  match anchor?, body with
  | none, [] => ⟨[""]⟩
  | none, body => ⟨body⟩
  | some "", [] => ⟨["", ""]⟩
  | some anchor, body => ⟨anchor :: body⟩

/-- The path one component up, without the void components around it. The
parent of a dot is the empty path, which has no parent, like the root. -/
def parent? (path : Path) : Option Path :=
  match dropVoidEnd path.body with
  | [] => if path.anchor? = some "." then some ⟨[""]⟩ else none
  | body => some (ofParts path.anchor? (dropVoidEnd body.dropLast))

/-- A path and its parents, nearest first, at most `fuel` of them. -/
def ancestorsFrom : (fuel : Nat) → Path → List Path
  | 0, _ => []
  | fuel + 1, path =>
      path ::
        match path.parent? with
        | some parent => ancestorsFrom fuel parent
        | none => []

/-- A path and all its parents, nearest first. Each parent has fewer
components, but for the empty path at the end. -/
def ancestors (path : Path) : List Path :=
  ancestorsFrom (path.components.length + 1) path

/-- The last component that is not void. -/
def name? (path : Path) : Option String :=
  (dropVoidEnd path.body).getLast?

/-- What follows the last dot of the name, unless the name has no other part
in front of that dot. -/
def extension? (path : Path) : Option String :=
  match path.name? with
  | none | some ".." => none
  | some name =>
      let (reversed, before) := name.toList.reverse.span (· ≠ '.')
      if before.length ≤ 1 then none
      else some (String.ofList reversed.reverse)

end Path

end Preflight.File
