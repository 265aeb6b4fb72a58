/-
# Text as octets

A character is stored as one to four octets; the first one tells how many follow.  Writing
text is `encode`.  Octets from outside need not be text: `repair` reads them anyway and puts
one U+FFFD in the place of every piece that cannot be part of a character, where a piece is
as long as it could still have been the beginning of one.  Octets are text exactly when
repairing them changes nothing, and `decode?` reads those only.
-/
import PluginHost.Identity

namespace PluginHost.Utf8

/-- The octet with the value `n`. -/
def octet (n : Nat) : UInt8 := UInt8.ofNat n

/-- The octets of the character with code `n`. -/
def encodeCode (n : Nat) : Bytes :=
  if n < 0x80 then [octet n]
  else if n < 0x800 then [octet (0xC0 + n / 64), octet (0x80 + n % 64)]
  else if n < 0x10000 then
    [octet (0xE0 + n / 4096), octet (0x80 + n / 64 % 64), octet (0x80 + n % 64)]
  else
    [octet (0xF0 + n / 262144), octet (0x80 + n / 4096 % 64), octet (0x80 + n / 64 % 64),
      octet (0x80 + n % 64)]

/-- The octets of a list of characters. -/
def encodeChars (cs : List Char) : Bytes := cs.flatMap fun c => encodeCode c.toNat

/-- The octets of a text. -/
def encode (s : String) : Bytes := encodeChars s.toList

/-- The number of octets of a text. -/
def size (s : String) : Nat := (encode s).length

/-- What stands for octets that are no part of a character. -/
def replacement : Char := '\uFFFD'

/-- Whether an octet lies in `lo .. hi`. -/
def within (lo hi : Nat) (b : UInt8) : Bool := lo ≤ b.toNat && b.toNat ≤ hi

/-- Whether an octet can stand behind the first one of a character. -/
def isTail (b : UInt8) : Bool := within 0x80 0xBF b

/-- What the first octet of a piece announces. -/
inductive Lead where
  /-- The octet is a character by itself. -/
  | single
  /-- The octet begins no character. -/
  | none
  /-- One octet follows. -/
  | two
  /-- Two octets follow, the first of them in `lo .. hi`. -/
  | three (lo hi : Nat)
  /-- Three octets follow, the first of them in `lo .. hi`. -/
  | four (lo hi : Nat)
deriving DecidableEq, Repr

/-- Reads a first octet.  The narrower ranges keep out codes that have a shorter form,
surrogates, and codes above the last one. -/
def Lead.ofOctet (b : UInt8) : Lead :=
  let n := b.toNat
  if n < 0x80 then .single
  else if n < 0xC2 then .none
  else if n < 0xE0 then .two
  else if n = 0xE0 then .three 0xA0 0xBF
  else if n = 0xED then .three 0x80 0x9F
  else if n < 0xF0 then .three 0x80 0xBF
  else if n = 0xF0 then .four 0x90 0xBF
  else if n < 0xF4 then .four 0x80 0xBF
  else if n = 0xF4 then .four 0x80 0x8F
  else .none

/-- The character of two octets. -/
def join₂ (a b : UInt8) : Char := Char.ofNat (a.toNat % 32 * 64 + b.toNat % 64)

/-- The character of three octets. -/
def join₃ (a b c : UInt8) : Char :=
  Char.ofNat (a.toNat % 16 * 4096 + b.toNat % 64 * 64 + c.toNat % 64)

/-- The character of four octets. -/
def join₄ (a b c d : UInt8) : Char :=
  Char.ofNat (a.toNat % 8 * 262144 + b.toNat % 64 * 4096 + c.toNat % 64 * 64 + d.toNat % 64)

/-- Reads octets as characters, one U+FFFD for every piece that is no character. -/
def repairChars : Bytes → List Char
  | [] => []
  | a :: rest =>
    match Lead.ofOctet a with
    | .single => Char.ofNat a.toNat :: repairChars rest
    | .none => replacement :: repairChars rest
    | .two =>
      match rest with
      | [] => [replacement]
      | b :: rest' =>
        if isTail b then join₂ a b :: repairChars rest'
        else replacement :: repairChars (b :: rest')
    | .three lo hi =>
      match rest with
      | [] => [replacement]
      | b :: rest' =>
        if within lo hi b then
          match rest' with
          | [] => [replacement]
          | c :: rest'' =>
            if isTail c then join₃ a b c :: repairChars rest''
            else replacement :: repairChars (c :: rest'')
        else replacement :: repairChars (b :: rest')
    | .four lo hi =>
      match rest with
      | [] => [replacement]
      | b :: rest' =>
        if within lo hi b then
          match rest' with
          | [] => [replacement]
          | c :: rest'' =>
            if isTail c then
              match rest'' with
              | [] => [replacement]
              | d :: rest''' =>
                if isTail d then join₄ a b c d :: repairChars rest'''
                else replacement :: repairChars (d :: rest''')
            else replacement :: repairChars (c :: rest'')
        else replacement :: repairChars (b :: rest')

/-- Reads octets as text, one U+FFFD for every piece that is no character. -/
def repair (bytes : Bytes) : String := String.ofList (repairChars bytes)

/-- Reads octets that are text. -/
def decode? (bytes : Bytes) : Option String :=
  if encode (repair bytes) = bytes then some (repair bytes) else none

theorem encode_ofList (cs : List Char) : encode (String.ofList cs) = encodeChars cs := by
  simp [encode]

theorem encodeChars_append (cs ds : List Char) :
    encodeChars (cs ++ ds) = encodeChars cs ++ encodeChars ds := by
  simp [encodeChars]

/-- What `decode?` accepts is the written form of what it returns. -/
theorem encode_of_decode? {bytes : Bytes} {s : String} (h : decode? bytes = some s) :
    encode s = bytes := by
  unfold decode? at h
  split at h
  · simp_all
  · simp at h

end PluginHost.Utf8
