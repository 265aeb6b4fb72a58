/-
# Reading JSON

A text is read into a value that keeps what readers of records ask for.  Of a number that is
the integer it writes, if it has neither fraction nor exponent.  A text is made of UTF-16 code
units where escapes are used; two escapes that are halves of one character make up that
character, and a text with a half alone is none.
-/
import PluginHost.Text.Scan

namespace PluginHost.Json

/-- A value. -/
inductive Value where
  /-- Nothing. -/
  | null
  /-- A flag. -/
  | bool (value : Bool)
  /-- A number; `none` if it is not written as an integer. -/
  | number (value : Option Int)
  /-- A text; `none` if some character of it is only half there. -/
  | string (value : Option String)
  /-- A list. -/
  | array (items : List Value)
  /-- Names with their values, in the order in which they are written. -/
  | object (members : List (Option String × Value))

/-! ## Texts -/

/-- Where inside a text the reader is. -/
inductive TextState where
  /-- Between characters. -/
  | plain
  /-- Behind a backslash. -/
  | escape
  /-- Inside a code, of which `left` digits are missing and the others have the value `value`. -/
  | code (left value : Nat)
deriving DecidableEq, Repr

/-- The code that a backslash and one more character stand for. -/
def escape? (c : Char) : Option Nat :=
  if c = '"' ∨ c = '\\' ∨ c = '/' then some c.toNat
  else if c = 'b' then some 8
  else if c = 'f' then some 12
  else if c = 'n' then some 10
  else if c = 'r' then some 13
  else if c = 't' then some 9
  else none

/-- Reads the text in quotes as the codes of its characters and halves of characters. -/
def textCodes : Scanner TextState Nat where
  step
    | .plain, c =>
      if c = '"' then .stop []
      else if c = '\\' then .go [] .escape
      else if c.toNat < 0x20 then .fail
      else .go [c.toNat] .plain
    | .escape, c =>
      if c = 'u' then .go [] (.code 4 0)
      else
        match escape? c with
        | some code => .go [code] .plain
        | none => .fail
    | .code left value, c =>
      match hexValue? c with
      | none => .fail
      | some digit =>
        let value := value * 16 + digit
        if left ≤ 1 then .go [value] .plain else .go [] (.code (left - 1) value)
  finish _ := none

/-- The text with certain codes, where halves that belong together are put together. -/
def joinCodes : List Nat → Option (List Char)
  | [] => some []
  | high :: low :: rest =>
    if 0xD800 ≤ high ∧ high ≤ 0xDBFF then
      if 0xDC00 ≤ low ∧ low ≤ 0xDFFF then
        (joinCodes rest).map
          (Char.ofNat (0x10000 + (high - 0xD800) * 0x400 + (low - 0xDC00)) :: ·)
      else none
    else
      match charOfCode? high with
      | none => none
      | some c => (joinCodes (low :: rest)).map (c :: ·)
  | [code] => (charOfCode? code).map fun c => [c]

/-- Reads the rest of a text behind the opening quote. -/
def readText (cs : List Char) : Option (Option String × List Char) :=
  (textCodes.run .plain cs).map fun (codes, rest) => ((joinCodes codes).map String.ofList, rest)

/-! ## Numbers -/

/-- Reads digits, of which there must be one. -/
def readDigits (cs : List Char) : Option (List Char × List Char) :=
  let digits := cs.takeWhile Char.isDigit
  if digits = [] then none else some (digits, cs.dropWhile Char.isDigit)

/-- Reads the digits of a whole number, which has no zero in front. -/
def readWhole : List Char → Option (List Char × List Char)
  | '0' :: rest => some (['0'], rest)
  | cs => readDigits cs

/-- Reads the exponent of a number, if there is one; tells whether there is. -/
def readExponent : List Char → Option (Bool × List Char)
  | [] => some (false, [])
  | c :: rest =>
    if c = 'e' ∨ c = 'E' then
      let digits :=
        match rest with
        | '+' :: rest | '-' :: rest => rest
        | rest => rest
      (readDigits digits).map fun (_, rest) => (true, rest)
    else some (false, c :: rest)

/-- Reads the fraction and exponent of a number, if there are any; tells whether there are. -/
def readFraction : List Char → Option (Bool × List Char)
  | '.' :: rest =>
    match readDigits rest with
    | none => none
    | some (_, rest) => (readExponent rest).map fun (_, rest) => (true, rest)
  | cs => readExponent cs

/-- The value of decimal digits. -/
def wholeValue (digits : List Char) : Nat :=
  digits.foldl (fun n c => n * 10 + (c.toNat - '0'.toNat)) 0

/-- Reads a number without its sign.  Minus zero is not an integer. -/
def readMagnitude (negative : Bool) (cs : List Char) : Option (Option Int × List Char) :=
  match readWhole cs with
  | none => none
  | some (digits, rest) =>
    (readFraction rest).map fun (inexact, rest) =>
      let n := wholeValue digits
      if inexact ∨ (negative ∧ n = 0) then (none, rest)
      else (some (if negative then -(n : Int) else n), rest)

/-- Reads a number. -/
def readNumber : List Char → Option (Option Int × List Char)
  | '-' :: rest => readMagnitude true rest
  | cs => readMagnitude false cs

/-! ## Values -/

/-- What follows white space. -/
def skipSpace (cs : List Char) : List Char :=
  cs.dropWhile fun c => c = ' ' ∨ c = '\n' ∨ c = '\t' ∨ c = '\r'

/-- A way to read something: it returns what it is, and the input behind it. -/
abbrev Reader (α : Type) := List Char → Option (α × List Char)

/-- Reads a name and its value. -/
def readMember (value : Reader Value) : Reader (Option String × Value) := fun cs =>
  match cs with
  | '"' :: rest =>
    match readText rest with
    | none => none
    | some (name, rest) =>
      match skipSpace rest with
      | ':' :: rest => (value (skipSpace rest)).map fun (v, rest) => ((name, v), rest)
      | _ => none
  | _ => none

/-- Reads elements with commas between them, up to the character `close`; `fuel` bounds their
number. -/
def readElements {α : Type} (element : Reader α) (close : Char) : Nat → Reader (List α)
  | 0, _ => none
  | fuel + 1, cs =>
    match element (skipSpace cs) with
    | none => none
    | some (first, rest) =>
      match skipSpace rest with
      | ',' :: rest =>
        (readElements element close fuel rest).map fun (more, rest) => (first :: more, rest)
      | c :: rest => if c = close then some ([first], rest) else none
      | [] => none

/-- Reads the elements behind an opening bracket; there may be none. -/
def readList {α : Type} (element : Reader α) (close : Char) : Reader (List α) := fun cs =>
  let inside := skipSpace cs
  if inside.head? = some close then some ([], inside.drop 1)
  else readElements element close (inside.length + 1) inside

/-- Reads a value in which lists and objects stand inside one another at most `depth` deep. -/
def readValueTo : Nat → Reader Value
  | _, 'n' :: 'u' :: 'l' :: 'l' :: rest => some (.null, rest)
  | _, 't' :: 'r' :: 'u' :: 'e' :: rest => some (.bool true, rest)
  | _, 'f' :: 'a' :: 'l' :: 's' :: 'e' :: rest => some (.bool false, rest)
  | _, '"' :: rest => (readText rest).map fun (text, rest) => (.string text, rest)
  | depth + 1, '[' :: rest =>
    (readList (readValueTo depth) ']' rest).map fun (items, rest) => (.array items, rest)
  | depth + 1, '\x7b' :: rest =>
    (readList (readMember (readValueTo depth)) '\x7d' rest).map fun (members, rest) =>
      (.object members, rest)
  | _, cs => (readNumber cs).map fun (number, rest) => (.number number, rest)

/-- The value that a text writes. -/
def read (text : String) : Option Value :=
  let cs := skipSpace text.toList
  match readValueTo cs.length cs with
  | none => none
  | some (value, rest) => if skipSpace rest = [] then some value else none

end PluginHost.Json
