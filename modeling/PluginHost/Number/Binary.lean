/-
# Binary floating-point numbers

A finite number of a binary format is a whole significand times a power of two.  Without the
sign, the numbers of a format are ordered like their codes, so a magnitude is represented by
its code, here called its *rank*: rank zero is zero, and each rank is the next larger number
up to infinity, behind which only codes without a value lie.

Everything is computed exactly on natural numbers.  `Format.round` takes a fraction to the
nearest rank, and of two equally near ones to the one whose significand is even; from it come
the reading of decimals and integers and the passage from one format to the other.
-/

namespace PluginHost

/-- A binary format: how many binary places of the significand are stored, and how many bits
the exponent has. -/
structure Format where
  /-- The stored places of the significand. -/
  fraction : Nat
  /-- The bits of the exponent. -/
  exponent : Nat
deriving DecidableEq, Repr

namespace Format

/-- The format of thirty-two bits. -/
def single : Format := ⟨23, 8⟩

/-- The format of sixty-four bits. -/
def double : Format := ⟨52, 11⟩

/-- The power of two of the smallest positive number. -/
def lowest (fmt : Format) : Int := 2 - Nat.pow 2 (fmt.exponent - 1) - fmt.fraction

/-- The rank of infinity. -/
def infinity (fmt : Format) : Nat := (Nat.pow 2 fmt.exponent - 1) * Nat.pow 2 fmt.fraction

/-- The code of a value that is not a number. -/
def quietNaN (fmt : Format) : Nat := fmt.infinity + Nat.pow 2 (fmt.fraction - 1)

/-- The bit that carries the sign. -/
def signBit (fmt : Format) : Nat := Nat.pow 2 (fmt.fraction + fmt.exponent)

/-- The significand of a finite rank. -/
def significand (fmt : Format) (rank : Nat) : Nat :=
  if rank < Nat.pow 2 fmt.fraction then rank
  else Nat.pow 2 fmt.fraction + rank % Nat.pow 2 fmt.fraction

/-- The power of two of a finite rank. -/
def power (fmt : Format) (rank : Nat) : Int :=
  fmt.lowest + ((rank / Nat.pow 2 fmt.fraction - 1 : Nat) : Int)

/-- The numerator of `n / d` divided by `2 ^ q`. -/
def scaledNum (n : Nat) (q : Int) : Nat := n * Nat.pow 2 (-q).toNat

/-- The denominator of `n / d` divided by `2 ^ q`. -/
def scaledDen (d : Nat) (q : Int) : Nat := d * Nat.pow 2 q.toNat

/-- The whole number nearest to `n / d`; of two equally near ones the even one. -/
def nearest (n d : Nat) : Nat :=
  let quotient := n / d
  let twice := 2 * (n % d)
  if twice < d then quotient
  else if d < twice then quotient + 1
  else quotient + quotient % 2

/-- The largest `k` with `2 ^ k ≤ n / d`. -/
def magnitude (n d : Nat) : Int :=
  let k : Int := (Nat.log2 n : Int) - Nat.log2 d
  if scaledNum n k < scaledDen d k then k - 1 else k

/-- The rank nearest to `n / d`, where `d` is positive; of two equally near ones the even
one.  Beyond the largest number lies infinity. -/
def round (fmt : Format) (n d : Nat) : Nat :=
  if n = 0 then 0
  else
    let q := max fmt.lowest (magnitude n d - fmt.fraction)
    min fmt.infinity
      ((q - fmt.lowest).toNat * Nat.pow 2 fmt.fraction + nearest (scaledNum n q) (scaledDen d q))

/-- The number of decimal digits of `n`. -/
def digitCount (n : Nat) : Nat := (Nat.toDigits 10 n).length

/-- The rank nearest to `c * 10 ^ k`.  Exponents that leave the format on either side are
told by their size, before any power is formed. -/
def ofDecimal (fmt : Format) (c : Nat) (k : Int) : Nat :=
  let reach : Int := Nat.pow 2 (fmt.exponent - 1)
  if c = 0 then 0
  else if k + digitCount c > reach then fmt.infinity
  else if k + digitCount c < -reach then 0
  else fmt.round (c * Nat.pow 10 k.toNat) (Nat.pow 10 (-k).toNat)

/-- The rank in `target` nearest to a finite rank of `fmt`. -/
def convert (fmt target : Format) (rank : Nat) : Nat :=
  let q := fmt.power rank
  target.round (fmt.significand rank * Nat.pow 2 q.toNat) (Nat.pow 2 (-q).toNat)

end Format

/-- A number of the format of thirty-two bits. -/
structure Binary32 where
  /-- The sign, the exponent and the stored places, from the highest bit down. -/
  bits : UInt32
deriving DecidableEq, Repr

/-- A number of the format of sixty-four bits. -/
structure Binary64 where
  /-- The sign, the exponent and the stored places, from the highest bit down. -/
  bits : UInt64
deriving DecidableEq, Repr

namespace Binary32

/-- Whether the sign is minus. -/
def isNegative (x : Binary32) : Bool := Format.single.signBit ≤ x.bits.toNat

/-- The rank of the number without its sign. -/
def rank (x : Binary32) : Nat := x.bits.toNat % Format.single.signBit

/-- Whether the code stands for no number. -/
def isNaN (x : Binary32) : Bool := Format.single.infinity < x.rank

/-- The number with a sign and a rank. -/
def ofRank (negative : Bool) (rank : Nat) : Binary32 :=
  ⟨UInt32.ofNat ((if negative then Format.single.signBit else 0) + rank)⟩

/-- The code for no number. -/
def nan : Binary32 := ofRank false Format.single.quietNaN

/-- The number nearest to an integer. -/
def ofInt (n : Int) : Binary32 := ofRank (n < 0) (Format.single.round n.natAbs 1)

/-- The number nearest to `c * 10 ^ k`. -/
def ofDecimal (negative : Bool) (c : Nat) (k : Int) : Binary32 :=
  ofRank negative (Format.single.ofDecimal c k)

/-- Equality of numbers: zeros are equal whatever their sign, and no number is equal to
nothing. -/
def numEq (x y : Binary32) : Bool :=
  !x.isNaN && !y.isNaN && (x == y || (x.rank == 0 && y.rank == 0))

end Binary32

namespace Binary64

/-- Whether the sign is minus. -/
def isNegative (x : Binary64) : Bool := Format.double.signBit ≤ x.bits.toNat

/-- The rank of the number without its sign. -/
def rank (x : Binary64) : Nat := x.bits.toNat % Format.double.signBit

/-- Whether the code stands for no number. -/
def isNaN (x : Binary64) : Bool := Format.double.infinity < x.rank

/-- The number with a sign and a rank. -/
def ofRank (negative : Bool) (rank : Nat) : Binary64 :=
  ⟨UInt64.ofNat ((if negative then Format.double.signBit else 0) + rank)⟩

/-- The code for no number. -/
def nan : Binary64 := ofRank false Format.double.quietNaN

/-- The code for a number larger than all others. -/
def infinity (negative : Bool) : Binary64 := ofRank negative Format.double.infinity

/-- The number nearest to `c * 10 ^ k`. -/
def ofDecimal (negative : Bool) (c : Nat) (k : Int) : Binary64 :=
  ofRank negative (Format.double.ofDecimal c k)

/-- The narrower number nearest to a number. -/
def narrow (x : Binary64) : Binary32 :=
  if x.isNaN then Binary32.nan
  else if x.rank = Format.double.infinity then
    Binary32.ofRank x.isNegative Format.single.infinity
  else Binary32.ofRank x.isNegative (Format.double.convert Format.single x.rank)

end Binary64

/-- The wider number with the same value. -/
def Binary32.widen (x : Binary32) : Binary64 :=
  if x.isNaN then Binary64.nan
  else if x.rank = Format.single.infinity then Binary64.infinity x.isNegative
  else Binary64.ofRank x.isNegative (Format.single.convert Format.double x.rank)

end PluginHost
