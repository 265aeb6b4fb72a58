/-
# The shortest decimal that reads back

A number of a binary format is written with as few decimal digits as reading it back allows.
The decimals with the lowest place `10 ^ k` form a grid.  Of each grid only the two neighbours
of the number can be shortest, and the coarsest grid on which one of them reads back as the
number is taken; when both do, the nearer one, and of two equally near ones the larger.
-/
import PluginHost.Number.Binary

namespace PluginHost.Shortest

/-- A decimal: a whole number of units of `10 ^ place`. -/
structure Decimal where
  /-- The number of units. -/
  units : Nat
  /-- The power of ten of one unit. -/
  place : Int
deriving DecidableEq, Repr

/-- The neighbour on the grid `10 ^ k` of the number with the given rank and value `n / d`
that reads back as the number, if there is one. -/
def onGrid? (fmt : Format) (rank n d : Nat) (k : Int) : Option Nat :=
  let num := n * Nat.pow 10 (-k).toNat
  let den := d * Nat.pow 10 k.toNat
  let below := num / den
  let above := below + 1
  let lower := fmt.ofDecimal below k = rank
  let upper := fmt.ofDecimal above k = rank
  if upper ∧ (¬ lower ∨ den ≤ 2 * (num % den)) then some above
  else if lower then some below
  else none

/-- The first grid, from `10 ^ k` to finer ones, on which a neighbour reads back. -/
def search (fmt : Format) (rank n d : Nat) : Nat → Int → Decimal
  | 0, k => ⟨n * Nat.pow 10 (-k).toNat / (d * Nat.pow 10 k.toNat), k⟩
  | fuel + 1, k =>
    match onGrid? fmt rank n d k with
    | some units => ⟨units, k⟩
    | none => search fmt rank n d fuel (k - 1)

/-- The shortest decimal for a positive finite rank.  The search begins above the number and
needs at most one grid for each decimal digit that the format can tell apart. -/
def ofRank (fmt : Format) (rank : Nat) : Decimal :=
  let q := fmt.power rank
  let n := fmt.significand rank * Nat.pow 2 q.toNat
  let d := Nat.pow 2 (-q).toNat
  let top : Int := digitCountOf n - digitCountOf d + 1
  search fmt rank n d (fmt.fraction + 4) top
where
  /-- The number of decimal digits, as an integer. -/
  digitCountOf (n : Nat) : Int := Format.digitCount n

end PluginHost.Shortest
