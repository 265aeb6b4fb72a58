/-
# Text in diagnostics

A diagnostic encloses a text in quotes, and writes what could be taken for something else,
or would not be seen, as an escape.  A single character stands in single quotes, a text in
double quotes; only the enclosing quote is escaped.
-/
import PluginHost.Text.Visible

namespace PluginHost.Quoted

/-- The lower-case digits of `n` to the base sixteen. -/
def hexDigits (n : Nat) : List Char := Nat.toDigits 16 n

/-- A character between quotes of the kind `quote`. -/
def escape (quote : Char) (c : Char) : List Char :=
  if c = '\x00' then ['\\', '0']
  else if c = '\t' then ['\\', 't']
  else if c = '\r' then ['\\', 'r']
  else if c = '\n' then ['\\', 'n']
  else if c = '\\' ∨ c = quote then ['\\', c]
  else if Visible.isVisible c then [c]
  else ['\\', 'u', '\x7b'] ++ hexDigits c.toNat ++ ['\x7d']

/-- A text in double quotes. -/
def text (s : String) : String :=
  String.ofList ('"' :: s.toList.flatMap (escape '"') ++ ['"'])

/-- A character in single quotes. -/
def char (c : Char) : String := String.ofList ('\'' :: escape '\'' c ++ ['\''])

end PluginHost.Quoted
