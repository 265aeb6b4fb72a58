/-
# Reading values

A value is a text, a word, a list between brackets or a table between braces.  Lists and tables
may go over several lines, hold comments, and have a comma behind their last element.  Lines may
end between any two of their parts, except inside the name of a value.  Lists and tables may
stand inside one another up to a fixed depth.
-/
import PluginHost.Toml.Scalar
import PluginHost.Toml.Table
import PluginHost.Toml.Text

namespace PluginHost.Toml

/-- What follows blanks, line breaks and comments; `none` if one of them is malformed.  The
flag tells whether the input begins inside a comment. -/
def skipSpaceFrom : Bool → List Char → Option (List Char)
  | _, [] => some []
  | _, '\n' :: rest => skipSpaceFrom false rest
  | _, '\r' :: '\n' :: rest => skipSpaceFrom false rest
  | true, c :: rest => if isPlain c then skipSpaceFrom true rest else none
  | false, c :: rest =>
    if c = ' ' ∨ c = '\t' then skipSpaceFrom false rest
    else if c = '#' then skipSpaceFrom true rest
    else if c = '\r' then none
    else some (c :: rest)

/-- What follows blanks, line breaks and comments. -/
def skipSpace (cs : List Char) : Option (List Char) := skipSpaceFrom false cs

/-- A way to read a value: it returns the value and the input behind it. -/
abbrev Reader (α : Type) := List Char → Option (α × List Char)

/-- Reads a value behind its name and the sign between them; `skip` tells what follows the white
space that may surround the sign. -/
def readEntry (skip : List Char → Option (List Char)) (value : Reader Item) :
    Reader (Path × Item) := fun cs =>
  match readPath cs with
  | none => none
  | some (path, rest) =>
    match skip rest with
    | some ('=' :: rest) =>
      match skip rest with
      | none => none
      | some rest => (value rest).map fun (item, rest) => ((path, item), rest)
    | _ => none

/-- Reads elements with commas between them, up to the character `close`; `fuel` bounds their
number. -/
def readElements {α : Type} (element : Reader α) (close : Char) :
    Nat → Reader (List α)
  | 0, _ => none
  | fuel + 1, cs =>
    match skipSpace cs with
    | none => none
    | some cs =>
      if cs.head? = some close then some ([], cs.drop 1)
      else
        match element cs with
        | none => none
        | some (first, rest) =>
          match skipSpace rest with
          | some (',' :: rest) =>
            (readElements element close fuel rest).map fun (more, rest) => (first :: more, rest)
          | some (c :: rest) => if c = close then some ([first], rest) else none
          | _ => none

/-- Reads a text. -/
def readQuoted : Reader Item := fun cs =>
  (readText cs).map fun (text, rest) => (.string (String.ofList text), rest)

/-- Reads a value in which lists and tables stand inside one another at most `depth` deep. -/
def readValueTo : Nat → Reader Item
  | _, '"' :: rest => readQuoted ('"' :: rest)
  | _, '\'' :: rest => readQuoted ('\'' :: rest)
  | 0, '[' :: _ => none
  | 0, '\x7b' :: _ => none
  | depth + 1, '[' :: rest =>
    (readElements (readValueTo depth) ']' (rest.length + 1) rest).map fun (items, rest) =>
      (.array items, rest)
  | depth + 1, '\x7b' :: rest =>
    let entry := readEntry skipSpace (readValueTo depth)
    match readElements entry '\x7d' (rest.length + 1) rest with
    | none => none
    | some (values, rest) =>
      (Entries.addAll [] values).map fun entries => (.table .inline entries, rest)
  | _, cs =>
    let (word, rest) := splitWord cs
    (scalar? word).map fun item => (item, rest)

/-- How deep lists and tables may stand inside one another. -/
def depthLimit : Nat := 80

/-- Reads a value. -/
def readValue : Reader Item := readValueTo depthLimit

end PluginHost.Toml
