/-
# Writing JSON

Lists and records are written with one element to a line, each level two blanks further to the
right.  What is written depends on the level only through these blanks, so a written value is
a function of the level.
-/
import PluginHost.Text.Scan

namespace PluginHost.Json

/-- A value as it is written at a level. -/
abbrev Written := Nat → List Char

namespace Written

/-- The beginning of a line. -/
def newline (level : Nat) : List Char := '\n' :: List.replicate (2 * level) ' '

/-- A digit to the base sixteen. -/
def digit (n : Nat) : Char := if n < 10 then Char.ofNat (48 + n) else Char.ofNat (87 + n)

/-- A character of a text. -/
def character (c : Char) : List Char :=
  if c = '"' then ['\\', '"']
  else if c = '\\' then ['\\', '\\']
  else if c = '\x08' then ['\\', 'b']
  else if c = '\x0c' then ['\\', 'f']
  else if c = '\n' then ['\\', 'n']
  else if c = '\r' then ['\\', 'r']
  else if c = '\t' then ['\\', 't']
  else if c.toNat < 0x20 then
    ['\\', 'u', '0', '0', digit (c.toNat / 16), digit (c.toNat % 16)]
  else [c]

/-- A text between quotes. -/
def quoted (s : String) : List Char := '"' :: s.toList.flatMap character ++ ['"']

/-- A text. -/
def text (s : String) : Written := fun _ => quoted s

/-- An integer. -/
def integer (n : Int) : Written := fun _ =>
  (if n < 0 then ['-'] else []) ++ Nat.toDigits 10 n.natAbs

/-- A flag. -/
def flag (b : Bool) : Written := fun _ => if b then "true".toList else "false".toList

/-- The elements of a list or record that is written at a level. -/
def lines (level : Nat) : List Written → List Char
  | [] => []
  | [last] => newline (level + 1) ++ last (level + 1)
  | first :: rest => newline (level + 1) ++ first (level + 1) ++ [','] ++ lines level rest

/-- A list. -/
def list (items : List Written) : Written := fun level =>
  if items.isEmpty then ['[', ']']
  else ['['] ++ lines level items ++ newline level ++ [']']

/-- A name and its value. -/
def member (name : String) (value : Written) : Written := fun level =>
  quoted name ++ [':', ' '] ++ value level

/-- A record with at least one name. -/
def record (members : List (String × Written)) : Written := fun level =>
  ['\x7b'] ++ lines level (members.map fun (name, value) => member name value)
    ++ newline level ++ ['\x7d']

/-- A value that may be a failure, with a name that tells which of both it is. -/
def result {α : Type} (value : α → Written) : Except String α → Written
  | .ok a => record [("Ok", value a)]
  | .error message => record [("Err", text message)]

/-- The text of a value. -/
def render (value : Written) : String := String.ofList (value 0)

end Written
end PluginHost.Json
