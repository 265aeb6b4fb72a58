/-
# Codes

A code consists of the sign and the rank, and nothing is lost when it is taken apart.  Between
thirty-two and sixty-four bits the sign is carried over, and the rank is converted.

A number that is widened and narrowed again is the same number (`Binary32.narrow_widen`).  The
shortest decimal of a number, read with sixty-four bits and narrowed, gives the number back, apart
from the one magnitude that goes astray (`Format.convert_ofDecimal`).
-/
import PluginHost.Proofs.Number.Narrow

namespace PluginHost

/-- The sign and the rank are read off their sum. -/
lemma Format.sum_spec (fmt : Format) (negative : Bool) {r : ℕ} (hr : r < fmt.signBit) :
    let code := (if negative then fmt.signBit else 0) + r
    code < 2 * fmt.signBit ∧ code % fmt.signBit = r ∧
      decide (fmt.signBit ≤ code) = negative := by
  cases negative
  · simp [Nat.mod_eq_of_lt hr, hr]
    omega
  · simp [Nat.mod_eq_of_lt hr]
    omega

namespace Binary32

lemma ofRank_spec (negative : Bool) {r : ℕ} (hr : r < Format.single.signBit) :
    (ofRank negative r).rank = r ∧ (ofRank negative r).isNegative = negative := by
  obtain ⟨hlt, hrank, hsign⟩ := Format.single.sum_spec negative hr
  have hsize : (if negative then Format.single.signBit else 0) + r < 2 ^ 32 := hlt
  rw [rank, isNegative, ofRank, UInt32.toNat_ofNat', Nat.mod_eq_of_lt hsize]
  exact ⟨hrank, hsign⟩

/-- A number consists of its sign and its rank. -/
lemma ofRank_rank (x : Binary32) : ofRank x.isNegative x.rank = x := by
  have hcode : (if x.isNegative then Format.single.signBit else 0) + x.rank = x.bits.toNat := by
    have hlt : x.bits.toNat < 2 * Format.single.signBit := x.bits.toNat_lt_size
    rw [isNegative, rank]
    generalize Format.single.signBit = bit at hlt ⊢
    obtain h | h := Nat.lt_or_ge x.bits.toNat bit
    · simp [h, Nat.mod_eq_of_lt h]
    · rw [Nat.mod_eq_sub_mod h, Nat.mod_eq_of_lt (by omega)]
      simp [h]
  rw [ofRank, hcode, UInt32.ofNat_toNat]

end Binary32

namespace Binary64

variable {negative : Bool} {r : ℕ}

lemma ofRank_spec (negative : Bool) (hr : r < Format.double.signBit) :
    (ofRank negative r).rank = r ∧ (ofRank negative r).isNegative = negative := by
  obtain ⟨hlt, hrank, hsign⟩ := Format.double.sum_spec negative hr
  have hsize : (if negative then Format.double.signBit else 0) + r < 2 ^ 64 := hlt
  rw [rank, isNegative, ofRank, UInt64.toNat_ofNat', Nat.mod_eq_of_lt hsize]
  exact ⟨hrank, hsign⟩

lemma infinity_lt_signBit : Format.double.infinity < Format.double.signBit := by decide

/-- A finite number keeps its sign, and its rank is converted. -/
lemma narrow_ofRank (h : r < Format.double.infinity) : (ofRank negative r).narrow =
    Binary32.ofRank negative (Format.double.convert Format.single r) := by
  obtain ⟨hrank, hsign⟩ := ofRank_spec negative (h.trans infinity_lt_signBit)
  rw [narrow, isNaN, hrank, hsign, if_neg (by simpa using h.le), if_neg h.ne]

/-- So does infinity. -/
lemma narrow_infinity (negative : Bool) :
    (infinity negative).narrow = Binary32.ofRank negative Format.single.infinity := by
  obtain ⟨hrank, hsign⟩ := ofRank_spec negative infinity_lt_signBit
  rw [narrow, isNaN, infinity, hrank, hsign, if_neg (by simp), if_pos rfl]

end Binary64

/-- Narrowing a widened number gives it back. -/
theorem Binary32.narrow_widen {x : Binary32} (hx : x.isNaN = false) : x.widen.narrow = x := by
  have hrank : x.rank ≤ Format.single.infinity := by simpa [isNaN] using hx
  rw [widen, hx, if_neg Bool.false_ne_true]
  split
  · next hinfinite => rw [Binary64.narrow_infinity, ← hinfinite, ofRank_rank]
  · next hne =>
    have hfinite := lt_of_le_of_ne hrank hne
    obtain ⟨y, hy⟩ := Format.exists_double_value x.rank
    have hyfinite := Format.lt_infinity_double hrank hy.le
    have hwide : Format.single.convert Format.double x.rank = y := by
      rw [Format.convert_eq (by decide) (hy ▸ Format.double.rounds_value y),
        min_eq_right hyfinite.le]
    have hnarrow : Format.double.convert Format.single y = x.rank := by
      rw [Format.convert_eq (by decide) (hy ▸ Format.single.rounds_value x.rank),
        min_eq_right hrank]
    rw [hwide, Binary64.narrow_ofRank hyfinite, hnarrow, ofRank_rank]

namespace Format

/-- A decimal with the value of the shortest one, read with sixty-four bits, is finite and is
converted to the rank that it was written for. -/
theorem convert_ofDecimal {rank c : ℕ} {k : ℤ} (hpos : 0 < rank) (hfinite : rank < single.infinity)
    (hvalue : (c * 10 ^ k : ℚ) =
      (Shortest.ofRank single rank).units * 10 ^ (Shortest.ofRank single rank).place)
    (hastray : rank ≠ astray) (htwin : rank ≠ astrayTwin) :
    double.ofDecimal c k < double.infinity ∧
      double.convert single (double.ofDecimal c k) = rank := by
  obtain ⟨hread, hnear⟩ := Shortest.ofRank_spec regular_single hpos hfinite
  have hrounds := rounds_of_ofDecimal regular_single hread hfinite
  generalize Shortest.ofRank single rank = shortest at hvalue hnear hrounds
  obtain ⟨y, hy⟩ : ∃ y, double.Rounds (shortest.units * 10 ^ shortest.place) y :=
    exists_rounds (by decide) (by positivity)
  have hyfinite : y < double.infinity := by
    obtain ⟨z, hz⟩ := exists_double_midpoint rank
    have hle : y ≤ z := hy.le_of_le_value (hz ▸ hrounds.le_midpoint le_rfl)
    refine lt_infinity_double (Nat.succ_le_of_lt hfinite) ?_
    exact (value_strictMono.monotone hle).trans (hz.trans_lt (midpoint_lt_value rank)).le
  rw [ofDecimal_eq regular_double (hvalue ▸ hy), min_eq_right hyfinite.le]
  refine ⟨hyfinite, ?_⟩
  rw [convert_eq (by decide) (hrounds.narrow hfinite hnear hy hastray htwin),
    min_eq_right hfinite.le]

end Format

end PluginHost
