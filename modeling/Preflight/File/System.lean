import Preflight.File.Path

/-!
# File systems

What the program asks of a file system is small: whether a path leads to a
regular file, and the text of a file. Reading fails in few ways that matter
here; any other failure is passed on in the words in which it is met.
-/

namespace Preflight.File

/-- The ways in which reading a text fails. -/
inductive ReadFailure where
  | notFound
  /-- A file stands where a directory is needed. -/
  | notDirectory
  /-- A directory stands where a file is needed. -/
  | isDirectory
  /-- The content is not well-formed UTF-8. -/
  | notText
  /-- Any other failure, in its own words. -/
  | other (description : String)
  deriving DecidableEq, Repr

def ReadFailure.message : ReadFailure → String
  | notFound => "No such file or directory (os error 2)"
  | notDirectory => "Not a directory (os error 20)"
  | isDirectory => "Is a directory (os error 21)"
  | notText => "stream did not contain valid UTF-8"
  | other description => description

/-- The text of bytes, if they are well-formed UTF-8. -/
def decode (content : ByteArray) : Except ReadFailure String :=
  match String.fromUTF8? content with
  | some text => .ok text
  | none => .error .notText

/-- A file system as the program sees it. -/
structure System where
  /-- Whether a path leads to a regular file. -/
  isFile : Path → Bool
  /-- The text of the file that a path leads to. -/
  read : Path → Except ReadFailure String

end Preflight.File
