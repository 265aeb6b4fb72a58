/-
# Numbers, flags and dates in configuration files

What stands without quotes is one word: an integer, a number with a fraction or exponent, a
flag, or a date or time.  Underscores may separate digits.  A decimal integer has no zero in
front; integers to the bases sixteen, eight and two have a mark in front and no sign.

What shows an integer is its mark, or the first underscore behind its decimal digits.  The file
is in order even if no number comes out, as with `0x` or `1_a`; the number is missed only by
those who ask for the value.
-/
import PluginHost.Text.Scan
import PluginHost.Toml.Item
import PluginHost.Toml.Text

namespace PluginHost.Toml

/-- The digits of a word in which single underscores separate digits. -/
def digits? (isDigit : Char → Bool) : List Char → Option (List Char)
  | [] => none
  | [c] => if isDigit c then some [c] else none
  | c :: '_' :: rest => if isDigit c then (digits? isDigit rest).map (c :: ·) else none
  | c :: rest => if isDigit c then (digits? isDigit rest).map (c :: ·) else none

/-- The value of digits to a base. -/
def digitsValue (base : Nat) (digits : List Char) : Nat :=
  digits.foldl (fun n c => n * base + (hexValue? c).getD 0) 0

/-- Whether a character is a digit to a base. -/
def isDigitTo (base : Nat) (c : Char) : Bool :=
  match hexValue? c with
  | some n => n < base
  | none => false

/-- A number written to a base. -/
def readBase? (base : Nat) (cs : List Char) : Option Nat :=
  (digits? (isDigitTo base) cs).map (digitsValue base)

/-- The digits of a whole number without a zero in front. -/
def wholeDigits? (cs : List Char) : Option (List Char) :=
  match digits? (isDigitTo 10) cs with
  | some ('0' :: _ :: _) => none
  | digits => digits

/-- Splits off a sign, if there is one; tells whether it is a minus. -/
def splitSign : List Char → Bool × List Char
  | '-' :: rest => (true, rest)
  | '+' :: rest => (false, rest)
  | cs => (false, cs)

/-- The integer that a word writes. -/
def integer? (cs : List Char) : Option Int :=
  match cs with
  | '0' :: 'x' :: rest => (readBase? 16 rest).map Int.ofNat
  | '0' :: 'o' :: rest => (readBase? 8 rest).map Int.ofNat
  | '0' :: 'b' :: rest => (readBase? 2 rest).map Int.ofNat
  | _ =>
    let (negative, whole) := splitSign cs
    (wholeDigits? whole).map fun digits =>
      let n : Int := digitsValue 10 digits
      if negative then -n else n

/-- Whether every underscore in a word stands between two digits to the base sixteen; the flag tells
whether such a digit stands in front of the word. -/
def separatorsFit : Bool → List Char → Bool
  | _, [] => true
  | afterDigit, c :: rest =>
    (c ≠ '_' || (afterDigit && rest.head?.any (isDigitTo 16))) && separatorsFit (isDigitTo 16 c) rest

/-- Whether a word shows an integer, be there a number in it or not.  Nothing may follow a mark
without digits; behind an underscore everything may that shows neither another kind of number nor
a gap. -/
def showsInteger (cs : List Char) : Bool :=
  let (_, word) := splitSign cs
  let tail := word.dropWhile (isDigitTo 10)
  cs = ['0', 'x'] || cs = ['0', 'o'] || cs = ['0', 'b'] ||
    (word.head? ≠ some '0' && tail.head? = some '_' &&
      tail.all (fun c => c ≠ ' ' && c ≠ '.' && c ≠ 'e' && c ≠ 'E') && separatorsFit false word)

/-- The exponent that a word writes. -/
def exponent? (cs : List Char) : Option Int :=
  let (negative, whole) := splitSign cs
  (readBase? 10 whole).map fun n => if negative then -(n : Int) else n

/-- The double with a sign and a decimal value, unless it is larger than all doubles. -/
def finite? (negative : Bool) (c : Nat) (k : Int) : Option Binary64 :=
  let x := Binary64.ofDecimal negative c k
  if x.rank = Format.double.infinity then none else some x

/-- The number with a fraction or exponent that a word without sign writes. -/
def magnitude? (negative : Bool) (cs : List Char) : Option (Option Binary64) :=
  if cs = ['i', 'n', 'f'] then some (some (Binary64.infinity negative))
  else if cs = ['n', 'a', 'n'] then some (some Binary64.nan)
  else
    let isMark (c : Char) : Bool := c = 'e' ∨ c = 'E'
    let mantissa := cs.takeWhile fun c => !isMark c
    let tail := cs.dropWhile fun c => !isMark c
    let whole := mantissa.takeWhile (· ≠ '.')
    let point := mantissa.dropWhile (· ≠ '.')
    if tail = [] ∧ point = [] then none
    else do
      let wholeDigits ← wholeDigits? whole
      let fraction ← if point = [] then some [] else digits? (isDigitTo 10) (point.drop 1)
      let exponent ← if tail = [] then some 0 else exponent? (tail.drop 1)
      return finite? negative (digitsValue 10 (wholeDigits ++ fraction))
        (exponent - fraction.length)

/-- The number with a fraction or exponent that a word writes. -/
def float? (cs : List Char) : Option (Option Binary64) :=
  let (negative, rest) := splitSign cs
  magnitude? negative rest

/-- The value of exactly `n` decimal digits, and what follows them. -/
def fixedDigits? (n : Nat) (cs : List Char) : Option (Nat × List Char) :=
  let head := cs.take n
  if head.length = n ∧ head.all (isDigitTo 10) then some (digitsValue 10 head, cs.drop n)
  else none

/-- The days of a month. -/
def monthDays (year month : Nat) : Nat :=
  if month = 2 then
    if year % 4 = 0 ∧ (year % 100 ≠ 0 ∨ year % 400 = 0) then 29 else 28
  else if month = 4 ∨ month = 6 ∨ month = 9 ∨ month = 11 then 30
  else 31

/-- What follows a date. -/
def dateRest? (cs : List Char) : Option (List Char) := do
  let (year, rest) ← fixedDigits? 4 cs
  let '-' :: rest := rest | none
  let (month, rest) ← fixedDigits? 2 rest
  let '-' :: rest := rest | none
  let (day, rest) ← fixedDigits? 2 rest
  if 1 ≤ month ∧ month ≤ 12 ∧ 1 ≤ day ∧ day ≤ monthDays year month then some rest else none

/-- What follows hours and minutes. -/
def clockRest? (cs : List Char) : Option (List Char) := do
  let (hour, rest) ← fixedDigits? 2 cs
  let ':' :: rest := rest | none
  let (minute, rest) ← fixedDigits? 2 rest
  if hour ≤ 23 ∧ minute ≤ 59 then some rest else none

/-- What follows a time: hours and minutes, with seconds and their fraction if they are there. -/
def timeRest? (cs : List Char) : Option (List Char) := do
  let rest ← clockRest? cs
  match rest with
  | ':' :: seconds =>
    let (second, rest) ← fixedDigits? 2 seconds
    if 60 < second then none
    else
      match rest with
      | '.' :: fraction =>
        if (fraction.takeWhile (isDigitTo 10)).isEmpty then none
        else some (fraction.dropWhile (isDigitTo 10))
      | rest => some rest
  | rest => some rest

/-- Whether a word is nothing, or the distance of a time zone. -/
def isOffset (cs : List Char) : Bool :=
  match cs with
  | [] => true
  | ['Z'] | ['z'] => true
  | '+' :: rest | '-' :: rest => clockRest? rest == some []
  | _ => false

/-- Whether a word is a date, a time, or both. -/
def isDatetime (cs : List Char) : Bool :=
  match dateRest? cs with
  | none => timeRest? cs == some []
  | some [] => true
  | some (mark :: time) =>
    match timeRest? time with
    | none => false
    | some offset => (mark == 'T' || mark == 't' || mark == ' ') && isOffset offset

/-- The value that a word writes. -/
def scalar? (cs : List Char) : Option Item :=
  if cs = ['t', 'r', 'u', 'e'] then some (.boolean true)
  else if cs = ['f', 'a', 'l', 's', 'e'] then some (.boolean false)
  else
    match integer? cs with
    | some n => some (.integer n)
    | none =>
      match float? cs with
      | some x => some (.float x)
      | none =>
        if isDatetime cs then some .datetime
        else if showsInteger cs then some .illegible
        else none

/-- The characters that end a part of a word. -/
def wordEnds : List Char := ['=', ',', '[', ']', '\x7b', '\x7d', '#', ' ', '\t', '\r', '\n']

/-- Whether a character may stand in a word. -/
def isWordChar (c : Char) : Bool := !wordEnds.contains c

/-- Whether one more part of a word follows blanks; quotes do not begin one. -/
def partFollows (cs : List Char) : Bool :=
  (skipBlanks cs).head?.any fun c => isWordChar c && c ≠ '"' && c ≠ '\''

/-- Splits off a word.  Blanks between parts of the word belong to it, as those between a date and
a time. -/
def splitWord : List Char → List Char × List Char
  | [] => ([], [])
  | c :: cs =>
    if isWordChar c || ((c = ' ' || c = '\t') && partFollows cs) then
      let (word, rest) := splitWord cs
      (c :: word, rest)
    else ([], c :: cs)

end PluginHost.Toml
