import Preflight.File.System

/-!
# File trees

A file tree lists the entries of a file system under the names that lead to
them from the root; the first entry under some names hides later ones. Paths
are resolved in it component by component, `..` leading to the directory above.
-/

namespace Preflight.File

/-- An entry of a file tree. -/
inductive Entry where
  | file (content : ByteArray)
  | directory

/-- A file tree. The root is a directory and is not listed. -/
structure Tree where
  entries : List (List String × Entry) := []

namespace Tree

/-- The entry under the names. -/
def find? (tree : Tree) (names : List String) : Option Entry :=
  if names.isEmpty then some .directory else tree.entries.lookup names

/-- The tree with an entry under the names, in place of one that may be there
already. -/
def put (tree : Tree) (names : List String) (entry : Entry) : Tree :=
  ⟨(names, entry) :: tree.entries⟩

/-- The tree with a directory under the names, unless there is an entry
already. -/
def ensureDirectory (tree : Tree) (names : List String) : Tree :=
  match tree.find? names with
  | some _ => tree
  | none => tree.put names .directory

/-- Make the directories on the way that components lead from a directory,
which is given by its names; together with the names at the end of the way. -/
def makeWay (tree : Tree) : (names : List String) → List String →
    Tree × List String
  | names, [] => (tree, names)
  | names, component :: rest =>
      if Path.isVoid component then makeWay tree names rest
      else if component = ".." then makeWay tree names.dropLast rest
      else
        let inner := names ++ [component]
        makeWay (tree.ensureDirectory inner) inner rest

/-- The tree with a directory where a path leads from another directory, and
with the directories on the way to it. -/
def insertDirectory (tree : Tree) (names : List String) (path : Path) : Tree :=
  (tree.makeWay names path.components).1

/-- The tree with a file where a path leads from a directory, and with the
directories on the way to it. -/
def insertFile (tree : Tree) (names : List String) (path : Path)
    (content : ByteArray) : Tree :=
  let components := path.components.filter fun component =>
    !Path.isVoid component
  let (tree, names) := tree.makeWay names components.dropLast
  tree.put (names ++ components.getLast?.toList) (.file content)

/-- Follow components from a directory, which is given by its names. -/
def walk (tree : Tree) : (names : List String) → List String →
    Except ReadFailure (List String)
  | names, [] => .ok names
  | names, component :: rest =>
      match tree.find? names with
      | some .directory =>
          if Path.isVoid component then walk tree names rest
          else if component = ".." then walk tree names.dropLast rest
          else if (tree.find? (names ++ [component])).isSome then
            walk tree (names ++ [component]) rest
          else .error .notFound
      | some (.file _) => .error .notDirectory
      | none => .error .notFound

/-- The names that a path leads to from a working directory. The empty path
leads nowhere. -/
def resolve (tree : Tree) (workingDirectory : List String) (path : Path) :
    Except ReadFailure (List String) :=
  if path.toString.isEmpty then .error .notFound
  else
    let start :=
      if path.components.head? = some "" then [] else workingDirectory
    tree.walk start path.components

def read (tree : Tree) (workingDirectory : List String) (path : Path) :
    Except ReadFailure String :=
  match tree.resolve workingDirectory path with
  | .error failure => .error failure
  | .ok names =>
      match tree.find? names with
      | some (.file content) => decode content
      | some .directory => .error .isDirectory
      | none => .error .notFound

def isFile (tree : Tree) (workingDirectory : List String) (path : Path) :
    Bool :=
  match tree.resolve workingDirectory path with
  | .error _ => false
  | .ok names =>
      match tree.find? names with
      | some (.file _) => true
      | _ => false

/-- A file tree as a file system, seen from a working directory. -/
def toSystem (tree : Tree) (workingDirectory : List String) : System :=
  { isFile := tree.isFile workingDirectory
    read := tree.read workingDirectory }

end Tree

end Preflight.File
