/-
# Configuration files

A file is a sequence of lines.  A line holds a header or a name with its value; a value may
end on a later line.  The names behind a header belong to the table that it opens, those in
front of all headers to the file itself.
-/
import PluginHost.Toml.Value

namespace PluginHost.Toml

/-- A header. -/
inductive Header where
  /-- It opens a table. -/
  | table (path : Path)
  /-- It opens one more table of a list. -/
  | element (path : Path)
deriving DecidableEq, Repr

/-- What a line holds. -/
inductive Statement where
  /-- A header. -/
  | header (header : Header)
  /-- A name with its value. -/
  | entry (path : Path) (value : Item)

/-- A table of a file: a header, and the values behind it. -/
structure Chapter where
  /-- The header. -/
  header : Header
  /-- The values. -/
  values : List (Path × Item)

namespace Document

/-- Reads what a line holds, from its first character on. -/
def readStatement : Reader Statement
  | '[' :: '[' :: rest =>
    match readPath (skipBlanks rest) with
    | some (path, ']' :: ']' :: rest) => some (.header (.element path), rest)
    | _ => none
  | '[' :: rest =>
    match readPath (skipBlanks rest) with
    | some (path, ']' :: rest) => some (.header (.table path), rest)
    | _ => none
  | cs =>
    (readEntry (some ∘ skipBlanks) readValue cs).map fun ((path, item), rest) =>
      (.entry path item, rest)

/-- Whether only a comment can stand between here and the end of the line. -/
def atLineEnd : List Char → Bool
  | [] => true
  | '\r' :: '\n' :: _ => true
  | c :: _ => c = '\n' ∨ c = '#'

/-- Reads the lines of a file; `fuel` bounds their number. -/
def readStatements : Nat → List Char → Option (List Statement)
  | 0, _ => none
  | fuel + 1, cs =>
    match skipSpace cs with
    | none => none
    | some [] => some []
    | some cs =>
      match readStatement cs with
      | none => none
      | some (statement, rest) =>
        if atLineEnd (skipBlanks rest) then
          (readStatements fuel (skipBlanks rest)).map (statement :: ·)
        else none

/-- Gathers the values behind each header; the values in front of all headers come first. -/
def chapters : List Statement → List (Path × Item) × List Chapter
  | [] => ([], [])
  | .entry path value :: rest =>
    let (values, more) := chapters rest
    ((path, value) :: values, more)
  | .header header :: rest =>
    let (values, more) := chapters rest
    ([], ⟨header, values⟩ :: more)

/-- Puts a table where its header says. -/
def enter (entries : Entries) (chapter : Chapter) : Option Entries :=
  match chapter.header with
  | .table path => entries.alterAt (Entries.openTable chapter.values) path
  | .element path => entries.alterAt (Entries.openElement chapter.values) path

/-- Puts tables where their headers say, one after the other. -/
def enterAll (entries : Entries) : List Chapter → Option Entries
  | [] => some entries
  | chapter :: rest =>
    match enter entries chapter with
    | none => none
    | some entries => enterAll entries rest

/-- What the lines of a file say. -/
def ofStatements (statements : List Statement) : Option Entries :=
  match chapters statements with
  | (values, rest) =>
    match Entries.addAll [] values with
    | none => none
    | some entries => enterAll entries rest

/-- What follows a byte order mark, if the text begins with one. -/
def dropMark : List Char → List Char
  | c :: rest => if c = Char.ofNat 0xFEFF then rest else c :: rest
  | [] => []

/-- What the text of a file says. -/
def read (text : String) : Option Entries :=
  let cs := dropMark text.toList
  match readStatements (cs.length + 1) cs with
  | none => none
  | some statements => ofStatements statements

end Document
end PluginHost.Toml
