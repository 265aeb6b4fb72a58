/-
# Writing values

Texts are written with as little disguise as possible: in double quotes if nothing in them
needs an escape, otherwise in single quotes, otherwise in tripled quotes of either kind, and
with escapes only if all of that fails.  A text with line breaks is put on lines of its own.
Inside tripled double quotes at most two quotes stand side by side; an escape ends such a row.

Numbers are written in full, without an exponent, and always with a fraction.
-/
import PluginHost.Number.Shortest
import PluginHost.Toml.Text

namespace PluginHost.Toml.Written

/-! ## Texts -/

/-- The ways to quote a text. -/
inductive Form where
  /-- In double quotes. -/
  | basic
  /-- In single quotes. -/
  | literal
  /-- In tripled double quotes. -/
  | longBasic
  /-- In tripled single quotes. -/
  | longLiteral
deriving DecidableEq, Repr

/-- Whether a character is always harmless. -/
def isModest (c : Char) : Bool :=
  isBare c ∨ c = '.' ∨ c = '/' ∨ c = ' ' ∨ c = ':'

/-- Whether a character can only be written as an escape. -/
def needsEscape (c : Char) : Bool := !isPlain c && c ≠ '\n'

/-- The length of the longest row of `quote`, where `row` of them stand in front. -/
def longestRowFrom (quote : Char) (row : Nat) : List Char → Nat
  | [] => row
  | c :: cs =>
    if c = quote then longestRowFrom quote (row + 1) cs
    else max row (longestRowFrom quote 0 cs)

/-- The length of the longest row of `quote`. -/
def longestRow (quote : Char) (cs : List Char) : Nat := longestRowFrom quote 0 cs

/-- Whether a text has line breaks. -/
def hasLines (cs : List Char) : Bool := cs.contains '\n'

/-- The way to quote a text. -/
def form (cs : List Char) : Form :=
  let escapes := cs.any needsEscape
  let backslash := cs.contains '\\'
  let lines := hasLines cs
  if cs.all isModest then .basic
  else if !escapes ∧ !backslash ∧ longestRow '"' cs = 0 ∧ !lines then .basic
  else if !escapes ∧ longestRow '\'' cs = 0 ∧ !lines then .literal
  else if !escapes ∧ !backslash ∧ longestRow '"' cs ≤ 2 then .longBasic
  else if !escapes ∧ longestRow '\'' cs ≤ 2 then .longLiteral
  else if lines then .longBasic
  else .basic

/-- A digit to the base sixteen. -/
def upperDigit (n : Nat) : Char := if n < 10 then Char.ofNat (48 + n) else Char.ofNat (55 + n)

/-- A character other than a double quote, between double quotes. -/
def character (long : Bool) (c : Char) : List Char :=
  if c = '\x08' then ['\\', 'b']
  else if c = '\t' then ['\\', 't']
  else if c = '\x0c' then ['\\', 'f']
  else if c = '\r' then ['\\', 'r']
  else if c = '\\' then ['\\', '\\']
  else if c = '\n' then (if long then ['\n'] else ['\\', 'n'])
  else if isPlain c then [c]
  else ['\\', 'u', '0', '0', upperDigit (c.toNat / 16), upperDigit (c.toNat % 16)]

/-- How many double quotes may stand side by side. -/
def rowLimit (long : Bool) : Nat := if long then 2 else 0

/-- A text between double quotes, behind a row of `row` quotes. -/
def bodyFrom (long : Bool) (row : Nat) : List Char → List Char
  | [] => []
  | c :: rest =>
    if c = '"' then
      if row < rowLimit long then '"' :: bodyFrom long (row + 1) rest
      else '\\' :: '"' :: bodyFrom long 0 rest
    else character long c ++ bodyFrom long 0 rest

/-- A text between double quotes. -/
def body (long : Bool) (cs : List Char) : List Char := bodyFrom long 0 cs

/-- The line break behind the opening quotes of a text with line breaks. -/
def opening (cs : List Char) : List Char := if hasLines cs then ['\n'] else []

/-- A text in quotes. -/
def text (s : String) : List Char :=
  let cs := s.toList
  match form cs with
  | .basic => ['"'] ++ body false cs ++ ['"']
  | .literal => ['\''] ++ cs ++ ['\'']
  | .longBasic => ['"', '"', '"'] ++ opening cs ++ body true cs ++ ['"', '"', '"']
  | .longLiteral => ['\'', '\'', '\''] ++ opening cs ++ cs ++ ['\'', '\'', '\'']

/-! ## Numbers and flags -/

/-- An integer. -/
def integer (n : Int) : List Char :=
  (if n < 0 then ['-'] else []) ++ Nat.toDigits 10 n.natAbs

/-- A decimal in full, with at least one digit on either side of the point. -/
def decimal (d : Shortest.Decimal) : List Char :=
  let digits := Nat.toDigits 10 d.units
  if 0 ≤ d.place then digits ++ List.replicate d.place.toNat '0' ++ ['.', '0']
  else
    let places := (-d.place).toNat
    let padded := List.replicate (places + 1 - digits.length) '0' ++ digits
    padded.take (padded.length - places) ++ ['.'] ++ padded.drop (padded.length - places)

/-- A number: the shortest decimal that reads back. -/
def number (x : Binary32) : List Char :=
  if x.isNaN then ['n', 'a', 'n']
  else
    (if x.isNegative then ['-'] else []) ++
      if x.rank = Format.single.infinity then ['i', 'n', 'f']
      else if x.rank = 0 then ['0', '.', '0']
      else decimal (Shortest.ofRank .single x.rank)

/-- A flag. -/
def flag (b : Bool) : List Char := if b then "true".toList else "false".toList

/-! ## Lines -/

/-- A line that gives a name its value. -/
def entry (name : String) (value : List Char) : List Char :=
  name.toList ++ [' ', '=', ' '] ++ value ++ ['\n']

end PluginHost.Toml.Written
