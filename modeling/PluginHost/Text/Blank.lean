/-
# White space

The characters that Unicode counts as white space.  A text is blank when it has no other.
-/

namespace PluginHost.Blank

/-- The ranges of white space. -/
def ranges : List (Nat × Nat) :=
  [(0x09, 0x0D), (0x20, 0x20), (0x85, 0x85), (0xA0, 0xA0), (0x1680, 0x1680),
    (0x2000, 0x200A), (0x2028, 0x2029), (0x202F, 0x202F), (0x205F, 0x205F), (0x3000, 0x3000)]

/-- Whether the character is white space. -/
def isBlank (c : Char) : Bool := ranges.any fun r => r.1 ≤ c.toNat && c.toNat ≤ r.2

/-- Whether a text has no character but white space. -/
def isBlankText (s : String) : Bool := s.toList.all isBlank

end PluginHost.Blank
