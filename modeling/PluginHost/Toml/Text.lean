/-
# Text in configuration files

A text stands in double quotes, where a backslash begins an escape, or in single quotes, where
everything means itself.  Either quote can be tripled; the text may then go over several lines,
a line break right behind the opening quotes does not count, and up to two quotes may stand in
front of the closing ones.  In tripled double quotes a backslash at the end of a line takes
away the white space that follows.

Control characters other than the tab are not allowed as such.
-/
import PluginHost.Text.Scan

namespace PluginHost.Toml

/-- Whether a character may stand for itself in a text or comment. -/
def isPlain (c : Char) : Bool := c = '\t' ∨ (0x20 ≤ c.toNat ∧ c.toNat ≠ 0x7F)

/-- What a backslash and one more character stand for. -/
def escape? (c : Char) : Option Char :=
  if c = 'b' then some '\x08'
  else if c = 't' then some '\t'
  else if c = 'n' then some '\n'
  else if c = 'f' then some '\x0c'
  else if c = 'r' then some '\r'
  else if c = 'e' then some '\x1b'
  else if c = '"' then some '"'
  else if c = '\\' then some '\\'
  else none

/-- How many digits of a code follow a backslash and one more character. -/
def codeDigits? (c : Char) : Option Nat :=
  if c = 'x' then some 2 else if c = 'u' then some 4 else if c = 'U' then some 8 else none

/-- Where inside a text the reader is. -/
inductive TextState where
  /-- Between characters. -/
  | plain
  /-- Behind a carriage return, which a line feed has to follow. -/
  | lineBreak
  /-- Behind a backslash. -/
  | escape
  /-- Inside a code, of which `left` digits are missing and the others have the value `value`. -/
  | code (left value : Nat)
  /-- Behind a backslash and white space, which have to end the line. -/
  | lineEnd
  /-- The same, behind a carriage return. -/
  | lineEndBreak
  /-- Behind a line whose end does not count. -/
  | trim
  /-- The same, behind a carriage return. -/
  | trimBreak
  /-- Behind a number of quotes. -/
  | quotes (count : Nat)
deriving DecidableEq, Repr

abbrev TextStep := ScanStep TextState Char

namespace TextStep

/-- A character inside an escape; the text may be longer than a line if `long`. -/
def ofEscape (long : Bool) (c : Char) : TextStep :=
  match escape? c, codeDigits? c with
  | some d, _ => .go [d] .plain
  | none, some digits => .go [] (.code digits 0)
  | none, none =>
    if long ∧ c = '\n' then .go [] .trim
    else if long ∧ c = '\r' then .go [] .lineEndBreak
    else if long ∧ (c = ' ' ∨ c = '\t') then .go [] .lineEnd
    else .fail

/-- A digit of a code. -/
def ofDigit (left value : Nat) (c : Char) : TextStep :=
  match hexValue? c with
  | none => .fail
  | some digit =>
    let value := value * 16 + digit
    if left ≤ 1 then
      match charOfCode? value with
      | none => .fail
      | some d => .go [d] .plain
    else .go [] (.code (left - 1) value)

/-- A character between others, in double quotes. -/
def ofBasic (c : Char) : TextStep :=
  if c = '"' then .stop []
  else if c = '\\' then .go [] .escape
  else if isPlain c then .go [c] .plain
  else .fail

/-- A character between others, in tripled quotes of the kind `quote`, where a backslash begins
an escape if `escapes`. -/
def ofLong (quote : Char) (escapes : Bool) (c : Char) : TextStep :=
  if c = quote then .go [] (.quotes 1)
  else if escapes ∧ c = '\\' then .go [] .escape
  else if c = '\n' then .go [c] .plain
  else if c = '\r' then .go [c] .lineBreak
  else if isPlain c then .go [c] .plain
  else .fail

/-- Puts something in front of what a character adds. -/
def after (emit : List Char) : TextStep → TextStep
  | .go emit' next => .go (emit ++ emit') next
  | .stop emit' => .stop (emit ++ emit')
  | .stopBefore emit' => .stopBefore (emit ++ emit')
  | .fail => .fail

end TextStep

/-- Reads the text in double quotes. -/
def basicText : Scanner TextState Char where
  step
    | .escape, c => TextStep.ofEscape false c
    | .code left value, c => TextStep.ofDigit left value c
    | _, c => TextStep.ofBasic c
  finish _ := none

/-- Reads the text in single quotes. -/
def literalText : Scanner TextState Char where
  step _ c := if c = '\'' then .stop [] else if isPlain c then .go [c] .plain else .fail
  finish _ := none

/-- Reads the text in tripled quotes. -/
def longText (quote : Char) (escapes : Bool) : Scanner TextState Char where
  step
    | .plain, c => TextStep.ofLong quote escapes c
    | .lineBreak, c => if c = '\n' then .go [c] .plain else .fail
    | .escape, c => TextStep.ofEscape true c
    | .code left value, c => TextStep.ofDigit left value c
    | .lineEnd, c =>
      if c = ' ' ∨ c = '\t' then .go [] .lineEnd
      else if c = '\n' then .go [] .trim
      else if c = '\r' then .go [] .lineEndBreak
      else .fail
    | .lineEndBreak, c => if c = '\n' then .go [] .trim else .fail
    | .trim, c =>
      if c = ' ' ∨ c = '\t' ∨ c = '\n' then .go [] .trim
      else if c = '\r' then .go [] .trimBreak
      else TextStep.ofLong quote escapes c
    | .trimBreak, c => if c = '\n' then .go [] .trim else .fail
    | .quotes count, c =>
      if c = quote then
        if count = 4 then .stop [quote, quote] else .go [] (.quotes (count + 1))
      else if 3 ≤ count then .stopBefore (List.replicate (count - 3) quote)
      else TextStep.after (List.replicate count quote) (TextStep.ofLong quote escapes c)
  finish
    | .quotes count =>
      if 3 ≤ count then some (List.replicate (count - 3) quote) else none
    | _ => none

/-- What follows a line break, if the input begins with one. -/
def dropLineBreak : List Char → List Char
  | '\n' :: rest => rest
  | '\r' :: '\n' :: rest => rest
  | cs => cs

/-- Reads a quoted text of one line. -/
def readLine : List Char → Option (List Char × List Char)
  | '"' :: rest => basicText.run .plain rest
  | '\'' :: rest => literalText.run .plain rest
  | _ => none

/-- Reads a quoted text. -/
def readText : List Char → Option (List Char × List Char)
  | '"' :: '"' :: '"' :: rest => (longText '"' true).run .plain (dropLineBreak rest)
  | '\'' :: '\'' :: '\'' :: rest => (longText '\'' false).run .plain (dropLineBreak rest)
  | cs => readLine cs

/-- Whether a character may stand in a name without quotes. -/
def isBare (c : Char) : Bool := c.isAlphanum ∨ c = '_' ∨ c = '-'

/-- Reads a name without dots. -/
def readName (cs : List Char) : Option (String × List Char) :=
  match cs with
  | '"' :: _ | '\'' :: _ => (readLine cs).map fun (name, rest) => (String.ofList name, rest)
  | _ =>
    let name := cs.takeWhile isBare
    if name = [] then none else some (String.ofList name, cs.dropWhile isBare)

/-- What follows blanks and tabs. -/
def skipBlanks (cs : List Char) : List Char := cs.dropWhile fun c => c = ' ' ∨ c = '\t'

/-- Reads the names behind the first one of a path, each behind a dot; there are fewer of them
than `limit`. -/
def readPathRest : Nat → List Char → Option (List String × List Char)
  | 0, _ => none
  | limit + 1, cs =>
    match skipBlanks cs with
    | '.' :: rest =>
      match readName (skipBlanks rest) with
      | none => none
      | some (name, rest) =>
        (readPathRest limit rest).map fun (path, rest) => (name :: path, rest)
    | rest => some ([], rest)

/-- The largest number of names in a path. -/
def maxNames : Nat := 80

/-- Reads a path of names with dots between them, and the blanks behind it. -/
def readPath (cs : List Char) : Option (List String × List Char) :=
  match readName cs with
  | none => none
  | some (name, rest) =>
    (readPathRest maxNames rest).map fun (path, rest) => (name :: path, rest)

end PluginHost.Toml
