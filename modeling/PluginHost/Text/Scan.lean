/-
# Scanning quoted text

The body of a quoted text is read one character at a time: each character either adds
something to what was read, or ends the text, or is not allowed.  What a character means
depends on a state, such as being inside an escape.
-/

namespace PluginHost

/-- What a character does; `σ` is the type of states and `τ` that of what is read. -/
inductive ScanStep (σ τ : Type) where
  /-- It adds something, and the text goes on. -/
  | go (emit : List τ) (next : σ)
  /-- It is the last one of the text. -/
  | stop (emit : List τ)
  /-- The text has ended in front of it. -/
  | stopBefore (emit : List τ)
  /-- It is not allowed. -/
  | fail

/-- A way to read quoted text. -/
structure Scanner (σ τ : Type) where
  /-- What a character does. -/
  step : σ → Char → ScanStep σ τ
  /-- What the end of the input adds, if the text may end there. -/
  finish : σ → Option (List τ)

namespace Scanner

variable {σ τ : Type}

/-- Reads a text from a state on; returns what was read, and the input behind the text. -/
def run (m : Scanner σ τ) : σ → List Char → Option (List τ × List Char)
  | s, [] => (m.finish s).map fun emit => (emit, [])
  | s, c :: cs =>
    match m.step s c with
    | .go emit next => (m.run next cs).map fun (read, rest) => (emit ++ read, rest)
    | .stop emit => some (emit, cs)
    | .stopBefore emit => some (emit, c :: cs)
    | .fail => none

end Scanner

/-- The value of a digit to the base sixteen. -/
def hexValue? (c : Char) : Option Nat :=
  let n := c.toNat
  if 48 ≤ n ∧ n ≤ 57 then some (n - 48)
  else if 65 ≤ n ∧ n ≤ 70 then some (n - 55)
  else if 97 ≤ n ∧ n ≤ 102 then some (n - 87)
  else none

/-- The character with a code, if there is one. -/
def charOfCode? (n : Nat) : Option Char :=
  if n < 0xD800 ∨ (0xDFFF < n ∧ n < 0x110000) then some (Char.ofNat n) else none

end PluginHost
