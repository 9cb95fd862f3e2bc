/-!
# Trees of files

What a path leads to in a tree of directories and files, or why it leads nowhere. A path is followed
name by name, from the root if it starts with a slash and from the working directory if not; a name
of nothing or of one dot stays where it is, and a name of two dots goes back.
-/

namespace NanHost

/-- A directory or a file. -/
inductive FileTree where
  | file (content : ByteArray)
  | directory (entries : List (String × FileTree))

/-- Why a file cannot be read. -/
inductive FileError where
  | notFound
  | notADirectory
  | isADirectory
  | nameTooLong
  | zeroInName
  | notText
  deriving DecidableEq

/-- An error of reading a file in words. -/
def FileError.message : FileError → String
  | notFound => "No such file or directory (os error 2)"
  | notADirectory => "Not a directory (os error 20)"
  | isADirectory => "Is a directory (os error 21)"
  | nameTooLong => "File name too long (os error 36)"
  | zeroInName => "file name contained an unexpected NUL byte"
  | notText => "stream did not contain valid UTF-8"

namespace FileTree

/-- The most bytes that a name may have. -/
def maxNameSize : Nat := 255

/-- The most bytes that a path may have. -/
def maxPathSize : Nat := 4095

/-- Follows names from a place in a tree. The places that lead to it are given, the nearest
first. -/
def follow (place : FileTree) (above : List FileTree) : List String → Except FileError FileTree
  | [] => .ok place
  | name :: rest =>
    match place with
    | file _ => .error .notADirectory
    | directory entries =>
      if name = "" ∨ name = "." then follow place above rest
      else if name = ".." then
        match above with
        | [] => follow place [] rest
        | parent :: further => follow parent further rest
      else if maxNameSize < name.utf8ByteSize then .error .nameTooLong
      else
        match entries.lookup name with
        | none => .error .notFound
        | some next => follow next (place :: above) rest

end FileTree

/-- A tree of files as seen from one of its directories. -/
structure FileView where
  root : FileTree
  /-- The names that lead from the root to the working directory. -/
  workingDirectory : List String

namespace FileView

/-- The names to be followed from the root. -/
def steps (view : FileView) (path : String) : List String :=
  let names := path.splitOn "/"
  if names.head? = some "" then names else view.workingDirectory ++ names

/-- The text in the file to which a path leads. -/
def read (view : FileView) (path : String) : Except FileError String :=
  if path.toList.contains '\x00' then .error .zeroInName
  else if path = "" then .error .notFound
  else if FileTree.maxPathSize < path.utf8ByteSize then .error .nameTooLong
  else
    match view.root.follow [] (view.steps path) with
    | .error error => .error error
    | .ok (.file content) => (String.fromUTF8? content).elim (.error .notText) .ok
    | .ok (.directory _) => .error .isADirectory

end FileView

end NanHost
