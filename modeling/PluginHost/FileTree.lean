/-
# Files

What paths lead to.  Whoever reads files takes any `FileView`; a `FileTree` is one that is given
by its files.  In it a path is followed name by name, from the root if it begins with a slash and
else from the working directory: `.` stays, `..` goes up, and a name goes down into a directory.
Above the root there is only the root.
-/
import PluginHost.Text.Utf8

namespace PluginHost

/-- Why a file cannot be read. -/
inductive FileError where
  /-- Some name on the path does not exist. -/
  | notFound
  /-- Some name on the path is that of a file, although the path goes on. -/
  | notADirectory
  /-- The path leads to a directory. -/
  | isADirectory
  /-- Some name, or the path as a whole, is too long. -/
  | nameTooLong
  /-- The path holds a NUL. -/
  | nulInPath
  /-- The file, or a directory on the way, must not be read. -/
  | denied
  /-- The file is not text. -/
  | notText
deriving DecidableEq, Repr

/-- What a person is told. -/
def FileError.message : FileError → String
  | notFound => "No such file or directory (os error 2)"
  | notADirectory => "Not a directory (os error 20)"
  | isADirectory => "Is a directory (os error 21)"
  | nameTooLong => "File name too long (os error 36)"
  | nulInPath => "file name contained an unexpected NUL byte"
  | denied => "Permission denied (os error 13)"
  | notText => "stream did not contain valid UTF-8"

/-- The name of a file or directory. -/
abbrev Name := List Char

/-- What stands under a name. -/
inductive Node where
  /-- A file, with its octets. -/
  | file (octets : Bytes)
  /-- A directory. -/
  | directory
deriving DecidableEq, Repr

/-- What paths lead to. -/
abbrev FileView := String → Except FileError Node

namespace FileView

/-- No files at all. -/
def empty : FileView := fun _ => .error .notFound

/-- Whether a path leads to anything. -/
def exists? (files : FileView) (path : String) : Bool :=
  match files path with
  | .ok _ => true
  | .error _ => false

/-- Whether a path leads to a file. -/
def isFile (files : FileView) (path : String) : Bool :=
  match files path with
  | .ok (.file _) => true
  | _ => false

/-- The text of the file that a path leads to. -/
def readText (files : FileView) (path : String) : Except FileError String :=
  match files path with
  | .error e => .error e
  | .ok .directory => .error .isADirectory
  | .ok (.file octets) =>
    match Utf8.decode? octets with
    | some text => .ok text
    | none => .error .notText

end FileView

/-- Files, each with the names that lead to it from the root. -/
structure FileTree where
  /-- Files and directories; a directory that holds something need not be listed. -/
  nodes : List (List Name × Node)
  /-- The names that lead to the working directory. -/
  workingDirectory : List Name
deriving DecidableEq, Repr

namespace FileTree

/-- Nothing but a working directory. -/
def empty : FileTree := ⟨[], []⟩

/-- The longest name, in octets. -/
def nameLimit : Nat := 255

/-- The longest path, in octets. -/
def pathLimit : Nat := 4095

/-- The pieces of a path between slashes. -/
def pieces : List Char → List Name
  | [] => [[]]
  | c :: rest =>
    if c = '/' then [] :: pieces rest
    else
      match pieces rest with
      | [] => [[c]]
      | piece :: more => (c :: piece) :: more

/-- Whether a piece is a name, and not an empty one or that of the directory itself. -/
def isName (piece : Name) : Bool := piece ≠ [] ∧ piece ≠ ['.']

/-- Where a path begins: at the root or in the working directory. -/
def start (workingDirectory : List Name) (path : List Char) : List Name :=
  if path.head? = some '/' then [] else workingDirectory

/-- The names that a path without `..` leads along. -/
def names (workingDirectory : List Name) (path : String) : List Name :=
  start workingDirectory path.toList ++ (pieces path.toList).filter isName

/-- A tree of files, each given by its path.  Directories on the way come into being. -/
def ofPaths (workingDirectory : String) (paths : List (String × Node)) : FileTree :=
  let here := names [] workingDirectory
  ⟨paths.map fun p => (names here p.1, p.2), here⟩

/-- What stands behind a list of names. -/
def node? (t : FileTree) (names : List Name) : Option Node :=
  match t.nodes.find? fun entry => entry.1 = names with
  | some entry => some entry.2
  | none =>
    if (t.workingDirectory :: t.nodes.map Prod.fst).any names.isPrefixOf then some .directory
    else none

/-- Follows the pieces of a path from a directory. -/
def follow (t : FileTree) (place : List Name) : List Name → Except FileError Node
  | [] => .ok .directory
  | piece :: rest =>
    if !isName piece then t.follow place rest
    else if piece = ['.', '.'] then t.follow place.dropLast rest
    else if nameLimit < (Utf8.encodeChars piece).length then .error .nameTooLong
    else
      match t.node? (place ++ [piece]) with
      | none => .error .notFound
      | some .directory => t.follow (place ++ [piece]) rest
      | some (.file octets) => if rest = [] then .ok (.file octets) else .error .notADirectory

/-- What a path leads to. -/
def lookup (t : FileTree) (path : String) : Except FileError Node :=
  let cs := path.toList
  if '\x00' ∈ cs then .error .nulInPath
  else if cs = [] then .error .notFound
  else if pathLimit < (Utf8.encodeChars cs).length then .error .nameTooLong
  else t.follow (start t.workingDirectory cs) (pieces cs)

/-- What paths lead to. -/
def view (t : FileTree) : FileView := t.lookup

end FileTree
end PluginHost
