/-
# Octets as pairs of digits

Octets are written as two digits to the base sixteen each, the higher one first.  Writing uses
lower-case letters; reading takes letters of either case.  A text that is no such writing is
refused with the first reason found: an odd number of octets, or the first octet that is no
digit, with its place.
-/
import PluginHost.Text.Utf8
import PluginHost.Text.Quoted

namespace PluginHost.Hex

/-- Why a text is no writing of octets. -/
inductive Error where
  /-- The last digit has no partner. -/
  | oddLength
  /-- The octet at a place is no digit. -/
  | notADigit (octet : UInt8) (place : Nat)
deriving DecidableEq, Repr

/-- What a diagnostic says.  An octet is shown as the character with its code. -/
def Error.message : Error → String
  | .oddLength => "Odd number of digits"
  | .notADigit octet place =>
    s!"Invalid character {Quoted.char (Char.ofNat octet.toNat)} at position {place}"

/-- The digit with the value `n`, for `n < 16`. -/
def digit (n : Nat) : Char := if n < 10 then Char.ofNat (48 + n) else Char.ofNat (87 + n)

/-- The two digits of an octet. -/
def pair (b : UInt8) : List Char := [digit (b.toNat / 16), digit (b.toNat % 16)]

/-- Writes octets. -/
def encode (bytes : Bytes) : String := String.ofList (bytes.flatMap pair)

/-- The value of a digit. -/
def value? (b : UInt8) : Option Nat :=
  let n := b.toNat
  if 48 ≤ n ∧ n ≤ 57 then some (n - 48)
  else if 65 ≤ n ∧ n ≤ 70 then some (n - 55)
  else if 97 ≤ n ∧ n ≤ 102 then some (n - 87)
  else none

/-- Reads pairs of digits, the first of which stands at `place`. -/
def decodePairs (place : Nat) : Bytes → Except Error Bytes
  | a :: b :: rest =>
    match value? a, value? b with
    | none, _ => .error (.notADigit a place)
    | some _, none => .error (.notADigit b (place + 1))
    | some high, some low =>
      (decodePairs (place + 2) rest).map (Utf8.octet (high * 16 + low) :: ·)
  | [_] => .error .oddLength
  | [] => .ok []

/-- Reads the octets that a text writes. -/
def decode (s : String) : Except Error Bytes :=
  let octets := Utf8.encode s
  if octets.length % 2 = 1 then .error .oddLength else decodePairs 0 octets

end PluginHost.Hex
