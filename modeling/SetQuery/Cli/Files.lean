import SetQuery.Text.Blank

/-!
# Files

A command sees the file system as a function from paths to what is found there. `FileTree` is a
directory with all that is in it; its paths are followed as an operating system does: every part but
the last has to be a directory, and what lies outside the tree does not exist.
-/

namespace SetQuery.Cli

/-- What is found at a path. -/
inductive PathState
  /-- Nothing, and why it cannot be read. -/
  | absent (reason : String)
  /-- Something that cannot be read as text, and why. -/
  | unreadable (reason : String)
  | text (content : String)
deriving DecidableEq, Repr

namespace PathState

/-- Whether there is anything at the path. -/
def exists? : PathState → Bool
  | .absent _ => false
  | _ => true

/-- The text at the path, or why it cannot be read. -/
def read : PathState → Except String String
  | .absent reason => .error reason
  | .unreadable reason => .error reason
  | .text content => .ok content

/-- There is nothing at the path. -/
def missing : PathState := .absent "No such file or directory (os error 2)"

/-- The path goes through a file. -/
def throughFile : PathState := .absent "Not a directory (os error 20)"

/-- There is a directory at the path. -/
def directory : PathState := .unreadable "Is a directory (os error 21)"

/-- There are bytes at the path which are no text. -/
def notText : PathState := .unreadable "stream did not contain valid UTF-8"

end PathState

/-- The path of a file in a directory. -/
def inDirectory (directory name : String) : String :=
  match directory.toList.getLast? with
  | none => name
  | some '/' => directory ++ name
  | some _ => directory ++ "/" ++ name

/-! ## Trees of files -/

/-- A directory with all files and directories in it. Paths are lists of names; the content of a
file is absent if it is no text. -/
structure FileTree where
  files : List (List String × Option String) := []
  directories : List (List String) := []
deriving Repr

namespace FileTree

/-- The names on a path, without those that lead nowhere. -/
def names (path : String) : List String :=
  (Text.pieces '/' path).filter fun name => name ≠ "" ∧ name ≠ "."

/-- The tree with a file at a path. -/
def addFile (t : FileTree) (path : String) (content : Option String) : FileTree :=
  { t with files := t.files ++ [(names path, content)] }

/-- The tree with a directory at a path. -/
def addDirectory (t : FileTree) (path : String) : FileTree :=
  { t with directories := t.directories ++ [names path] }

/-- Whether there is a directory at a place: it was added, or something lies in it. -/
def hasDirectory (t : FileTree) (place : List String) : Bool :=
  t.directories.any (place.isPrefixOf ·) ||
    t.files.any fun (file, _) => place.isPrefixOf file && place.length < file.length

/-- What is found by following names from a directory outside the tree, where it is known only that
directories lie in directories. -/
def followOutside (rest : List String) : PathState :=
  if rest.all (· ∈ ["", ".", ".."]) then .directory else .missing

/-- What is found behind a directory of the tree by following further names. -/
def follow (t : FileTree) (place : List String) : List String → PathState
  | [] => .directory
  | name :: rest =>
    if name = "" ∨ name = "." then follow t place rest
    else if name = ".." then
      if place.isEmpty then followOutside rest else follow t place.dropLast rest
    else
      let place := place ++ [name]
      match t.files.lookup place with
      | some content =>
        if rest.isEmpty then (content.map .text).getD .notText else .throughFile
      | none => if t.hasDirectory place then follow t place rest else .missing

/-- What is found at a path that starts at the tree's directory. -/
def look (t : FileTree) (path : String) : PathState :=
  if path = "" then .missing
  else if path.toList.head? = some '/' then followOutside (Text.pieces '/' path)
  else t.follow [] (Text.pieces '/' path)

end FileTree

end SetQuery.Cli
