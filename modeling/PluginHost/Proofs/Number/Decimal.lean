/-
# Decimals and the ranks that they are read as

A decimal is read as the rank that its value is rounded to, also where its size alone decides
(`Format.ofDecimal_eq`).  So reading depends on the value only, and not on how many digits it is
written with.

The shortest decimal of a number is read as this number again (`Shortest.ofRank_spec`): a grid that
is finer than a quarter of the gap has a neighbour of the number on it that reads back, and the
search comes to such a grid, because it begins above the number and each grid is ten times as fine
as the one before.  What it finds is a neighbour of the number on some grid, so it is not farther
from the number than one unit of that grid.
-/
import Mathlib.Data.Nat.Digits.Defs
import PluginHost.Number.Shortest
import PluginHost.Proofs.Number.Rounding

namespace PluginHost

namespace Format

/-- What the formats in use have in common. -/
structure Regular (fmt : Format) : Prop where
  /-- The significands have stored places. -/
  fraction_pos : 0 < fmt.fraction
  /-- The exponent has bits. -/
  exponent_pos : 0 < fmt.exponent
  /-- The exponents reach farther than the significands. -/
  fraction_le : fmt.fraction ≤ 2 ^ (fmt.exponent - 1)

lemma regular_single : single.Regular := ⟨by decide, by decide, by decide⟩

lemma regular_double : double.Regular := ⟨by decide, by decide, by decide⟩

/-! ## Digits -/

lemma lt_pow_digitCount (n : ℕ) : n < 10 ^ digitCount n :=
  (Nat.length_toDigits_le_iff (by norm_num) Nat.length_toDigits_pos).1 le_rfl

lemma pow_digitCount_le {n : ℕ} (hn : 0 < n) : 10 ^ (digitCount n - 1) ≤ n := by
  by_contra hlt
  rw [not_le] at hlt
  obtain h | h := Nat.eq_zero_or_pos (digitCount n - 1)
  · rw [h] at hlt
    omega
  · have hle : digitCount n ≤ digitCount n - 1 :=
      (Nat.length_toDigits_le_iff (by norm_num) h).2 hlt
    omega

lemma digitCount_pos (n : ℕ) : 0 < digitCount n := Nat.length_toDigits_pos

/-! ## Reading -/

section Reading

variable {fmt : Format} {c rank : ℕ} {k : ℤ}

/-- Numerator and denominator are those of the decimal. -/
lemma decimal_eq (c : ℕ) (k : ℤ) :
    ((c * Nat.pow 10 k.toNat : ℕ) : ℚ) / (Nat.pow 10 (-k).toNat : ℕ) = c * 10 ^ k := by
  rw [← pow_toNat_div 10 k, Nat.pow_eq, Nat.pow_eq]
  push_cast
  ring

/-- A decimal with so many places in front of the point is not smaller than infinity. -/
lemma infinity_le_of_digitCount (hfmt : fmt.Regular) (hc : 0 < c)
    (hlarge : (2 ^ (fmt.exponent - 1) : ℕ) < k + digitCount c) (h : fmt.Rounds (c * 10 ^ k) rank) :
    fmt.infinity ≤ rank := by
  refine (fmt.rounds_value fmt.infinity).mono h ?_
  have hdigits : ((10 ^ (digitCount c - 1) : ℕ) : ℚ) ≤ c := by exact_mod_cast pow_digitCount_le hc
  have hpos := digitCount_pos c
  rw [value_infinity hfmt.exponent_pos]
  calc (2 : ℚ) ^ 2 ^ (fmt.exponent - 1)
      ≤ 10 ^ 2 ^ (fmt.exponent - 1) := by gcongr; norm_num
    _ = (10 : ℚ) ^ ((2 ^ (fmt.exponent - 1) : ℕ) : ℤ) := by rw [zpow_natCast]
    _ ≤ 10 ^ (((digitCount c - 1 : ℕ) : ℤ) + k) :=
        zpow_le_zpow_right₀ (by norm_num) (by omega)
    _ = ((10 ^ (digitCount c - 1) : ℕ) : ℚ) * 10 ^ k := by
        rw [zpow_add₀ (by norm_num), zpow_natCast]
        push_cast
        rfl
    _ ≤ c * 10 ^ k := by gcongr

/-- A decimal with so many zeros behind the point is nearer to zero than to the first rank. -/
lemma eq_zero_of_digitCount (hfmt : fmt.Regular)
    (hsmall : k + digitCount c < -(2 ^ (fmt.exponent - 1) : ℕ))
    (h : fmt.Rounds (c * 10 ^ k) rank) : rank = 0 := by
  have hhalf : fmt.midpoint 0 = 2 ^ (fmt.lowest - 1) := by
    rw [midpoint, value_zero, gap, zpow_sub_one₀ (by norm_num)]
    simp [power]
    ring
  have hlowest : fmt.lowest = 2 - (2 ^ (fmt.exponent - 1) : ℕ) - fmt.fraction := by
    rw [lowest, Nat.pow_eq]
  have hlt : (c * 10 ^ k : ℚ) < fmt.midpoint 0 := by
    have hdigits : (c : ℚ) < (10 ^ digitCount c : ℕ) := by exact_mod_cast lt_pow_digitCount c
    have hfraction := hfmt.fraction_le
    rw [hhalf, hlowest]
    generalize 2 ^ (fmt.exponent - 1) = reach at hsmall hfraction ⊢
    calc (c * 10 ^ k : ℚ)
        < (10 ^ digitCount c : ℕ) * 10 ^ k := by gcongr
      _ = 10 ^ (k + digitCount c) := by
          rw [zpow_add₀ (by norm_num), zpow_natCast, mul_comm]
          push_cast
          rfl
      _ ≤ 10 ^ (-(reach : ℤ)) := zpow_le_zpow_right₀ (by norm_num) hsmall.le
      _ ≤ 4 ^ (-(reach : ℤ)) := by
          rw [zpow_neg, zpow_neg, zpow_natCast, zpow_natCast]
          gcongr
          norm_num
      _ = 2 ^ (-(2 * reach : ℤ)) := by
          rw [← mul_neg, zpow_mul]
          norm_num
      _ ≤ 2 ^ (2 - (reach : ℤ) - fmt.fraction - 1) :=
          zpow_le_zpow_right₀ (by norm_num) (by omega)
  by_contra hne
  exact absurd (h.midpoint_le (Nat.pos_of_ne_zero hne)) (not_le.2 hlt)

/-- A decimal is read as the rank that its value is rounded to. -/
theorem ofDecimal_eq (hfmt : fmt.Regular) (h : fmt.Rounds (c * 10 ^ k) rank) :
    fmt.ofDecimal c k = min fmt.infinity rank := by
  have hround : fmt.round (c * Nat.pow 10 k.toNat) (Nat.pow 10 (-k).toNat) =
      min fmt.infinity rank :=
    round_eq hfmt.fraction_pos (Nat.pow_pos (by norm_num)) (by rwa [decimal_eq])
  simp only [ofDecimal, Nat.pow_eq] at hround ⊢
  split_ifs with hzero hlarge hsmall
  · subst hzero
    rw [Nat.cast_zero, zero_mul, ← fmt.value_zero] at h
    simp [h.unique (fmt.rounds_value 0)]
  · exact (min_eq_left (infinity_le_of_digitCount hfmt (Nat.pos_of_ne_zero hzero) hlarge h)).symm
  · simp [eq_zero_of_digitCount hfmt hsmall h]
  · exact hround

/-- What reads as a finite rank is rounded to it. -/
lemma rounds_of_ofDecimal (hfmt : fmt.Regular) (h : fmt.ofDecimal c k = rank)
    (hfinite : rank < fmt.infinity) : fmt.Rounds (c * 10 ^ k) rank := by
  obtain ⟨rank', hrank'⟩ := exists_rounds (v := c * 10 ^ k) hfmt.fraction_pos (by positivity)
  have hmin := (ofDecimal_eq hfmt hrank').symm.trans h
  obtain rfl : rank' = rank := by omega
  exact hrank'

end Reading

end Format

/-! ## The search for the shortest decimal -/

namespace Shortest

open Format

variable {fmt : Format} {rank n d units : ℕ} {k : ℤ}

/-- Numerator and denominator are those of the number, measured in units of the grid. -/
lemma grid_eq (n d : ℕ) (k : ℤ) :
    ((n * Nat.pow 10 (-k).toNat : ℕ) : ℚ) / (d * Nat.pow 10 k.toNat : ℕ) = n / d / 10 ^ k := by
  rw [← pow_toNat_div 10 k, Nat.pow_eq, Nat.pow_eq]
  push_cast
  rw [div_div_div_eq, mul_comm (d : ℚ)]

/-- The neighbours of the number on a grid enclose it. -/
lemma below_le (hd : 0 < d) (n : ℕ) (k : ℤ) :
    let below := n * Nat.pow 10 (-k).toNat / (d * Nat.pow 10 k.toNat)
    (below * 10 ^ k : ℚ) ≤ n / d ∧ (n / d : ℚ) < (below + 1) * 10 ^ k := by
  intro below
  have hden : 0 < d * Nat.pow 10 k.toNat := Nat.mul_pos hd (Nat.pow_pos (by norm_num))
  have hden' : (0 : ℚ) < (d * Nat.pow 10 k.toNat : ℕ) := by exact_mod_cast hden
  have hunit : (0 : ℚ) < 10 ^ k := by positivity
  rw [← le_div_iff₀ hunit, ← div_lt_iff₀ hunit, ← grid_eq n d k, le_div_iff₀ hden',
    div_lt_iff₀ hden']
  constructor
  · exact_mod_cast Nat.div_mul_le_self _ _
  · exact_mod_cast Nat.lt_mul_of_div_lt (Nat.lt_succ_self below) hden

/-- What is found on a grid reads back, and is not farther away than one unit. -/
lemma onGrid?_some (hd : 0 < d) (h : onGrid? fmt rank n d k = some units) :
    fmt.ofDecimal units k = rank ∧ |(units * 10 ^ k - n / d : ℚ)| ≤ 10 ^ k := by
  obtain ⟨hbelow, habove⟩ := below_le hd n k
  simp only [onGrid?] at h
  generalize n * Nat.pow 10 (-k).toNat / (d * Nat.pow 10 k.toNat) = below at h hbelow habove
  split_ifs at h with hupper hlower
  · obtain rfl := Option.some.inj h
    refine ⟨hupper.1, abs_le.2 ⟨?_, ?_⟩⟩
    · push_cast
      linarith
    · push_cast
      linarith
  · obtain rfl := Option.some.inj h
    exact ⟨hlower, abs_le.2 ⟨by linarith, by linarith⟩⟩

/-- On a grid that is fine enough something is found. -/
lemma isSome_onGrid? (hfmt : fmt.Regular) (hd : 0 < d) (hvalue : fmt.value rank = n / d)
    (hfinite : rank < fmt.infinity) (hfine : (10 : ℚ) ^ k ≤ fmt.gap rank / 4) :
    (onGrid? fmt rank n d k).isSome := by
  obtain ⟨hbelow, habove⟩ := below_le hd n k
  simp only [onGrid?]
  generalize n * Nat.pow 10 (-k).toNat / (d * Nat.pow 10 k.toNat) = below at hbelow habove ⊢
  rw [← hvalue] at hbelow habove
  have hlower : fmt.ofDecimal below k = rank := by
    have hrounds : fmt.Rounds (below * 10 ^ k) rank := by
      refine ⟨?_, .inl (hbelow.trans_lt (value_lt_midpoint rank))⟩
      rintro prev rfl
      left
      have hhalf : fmt.gap (prev + 1) ≤ 2 * fmt.gap prev := by
        have := fmt.gap_pos prev
        obtain h | h := fmt.gap_succ prev
        · linarith
        · exact h.le
      rw [value_succ] at habove
      rw [Format.midpoint]
      linarith
    rw [ofDecimal_eq hfmt hrounds, min_eq_right hfinite.le]
  split_ifs with hupper
  · rfl
  · rfl

/-- The search ends on the first grid on which something is found. -/
lemma search_some {fuel : ℕ} (h : ∃ j : ℕ, j < fuel ∧ (onGrid? fmt rank n d (k - j)).isSome) :
    ∃ units place, search fmt rank n d fuel k = ⟨units, place⟩ ∧
      onGrid? fmt rank n d place = some units := by
  induction fuel generalizing k with
  | zero =>
    obtain ⟨j, hj, -⟩ := h
    exact absurd hj (Nat.not_lt_zero j)
  | succ fuel ih =>
    rw [search]
    cases hgrid : onGrid? fmt rank n d k with
    | some units => exact ⟨units, k, rfl, hgrid⟩
    | none =>
      refine ih ?_
      obtain ⟨j, hj, hsome⟩ := h
      cases j with
      | zero =>
        rw [Nat.cast_zero, sub_zero, hgrid] at hsome
        cases hsome
      | succ j =>
        refine ⟨j, Nat.lt_of_succ_lt_succ hj, ?_⟩
        rwa [sub_sub, add_comm, ← Nat.cast_succ]

/-- The grid that lies so many places below the first digit of the number is fine enough. -/
lemma grid_le_gap (hn : 0 < n) (hd : 0 < d) (hvalue : fmt.value rank = n / d) :
    (10 : ℚ) ^ ((digitCount n : ℤ) - digitCount d + 1 - (fmt.fraction + 3 : ℕ)) ≤
      fmt.gap rank / 4 := by
  have hn' : ((10 ^ (digitCount n - 1) : ℕ) : ℚ) ≤ n := by exact_mod_cast pow_digitCount_le hn
  have hd' : (d : ℚ) ≤ (10 ^ digitCount d : ℕ) := by exact_mod_cast (lt_pow_digitCount d).le
  have hdpos : (0 : ℚ) < d := by exact_mod_cast hd
  have hdigits := digitCount_pos n
  have hgap := fmt.gap_pos rank
  have hlow : (10 : ℚ) ^ ((digitCount n : ℤ) - digitCount d - 1) ≤
      2 * 2 ^ fmt.fraction * fmt.gap rank := by
    have hsignificand : (fmt.significand rank : ℚ) ≤ 2 * 2 ^ fmt.fraction := by
      exact_mod_cast (significand_lt rank).le
    calc (10 : ℚ) ^ ((digitCount n : ℤ) - digitCount d - 1)
        = (10 ^ (digitCount n - 1) : ℕ) / (10 ^ digitCount d : ℕ) := by
          push_cast
          rw [← zpow_natCast, ← zpow_natCast, ← zpow_sub₀ (by norm_num)]
          congr 1
          omega
      _ ≤ n / d := by gcongr
      _ = fmt.significand rank * fmt.gap rank := by rw [← hvalue, value]
      _ ≤ 2 * 2 ^ fmt.fraction * fmt.gap rank := by gcongr
  have hpow : (8 * 2 ^ fmt.fraction : ℚ) ≤ 10 ^ (fmt.fraction + 1) := by
    calc (8 * 2 ^ fmt.fraction : ℚ) ≤ 10 * 10 ^ fmt.fraction := by gcongr <;> norm_num
      _ = 10 ^ (fmt.fraction + 1) := by rw [pow_succ']
  have hsplit : (10 : ℚ) ^ ((digitCount n : ℤ) - digitCount d + 1 - (fmt.fraction + 3 : ℕ)) =
      10 ^ ((digitCount n : ℤ) - digitCount d - 1) / 10 ^ (fmt.fraction + 1) := by
    rw [← zpow_natCast, ← zpow_sub₀ (by norm_num)]
    congr 1
    push_cast
    ring
  rw [hsplit, div_le_iff₀ (by positivity)]
  calc (10 : ℚ) ^ ((digitCount n : ℤ) - digitCount d - 1)
      ≤ 2 * 2 ^ fmt.fraction * fmt.gap rank := hlow
    _ = fmt.gap rank / 4 * (8 * 2 ^ fmt.fraction) := by ring
    _ ≤ fmt.gap rank / 4 * 10 ^ (fmt.fraction + 1) := by gcongr

/-- The shortest decimal of a number reads back, and it is not farther from the number than one
unit of its last place. -/
theorem ofRank_spec (hfmt : fmt.Regular) (hpos : 0 < rank) (hfinite : rank < fmt.infinity) :
    fmt.ofDecimal (ofRank fmt rank).units (ofRank fmt rank).place = rank ∧
      |((ofRank fmt rank).units * 10 ^ (ofRank fmt rank).place - fmt.value rank : ℚ)| ≤
        10 ^ (ofRank fmt rank).place := by
  obtain ⟨n, hn⟩ : ∃ n, fmt.significand rank * Nat.pow 2 (fmt.power rank).toNat = n := ⟨_, rfl⟩
  obtain ⟨d, hd⟩ : ∃ d, Nat.pow 2 (-fmt.power rank).toNat = d := ⟨_, rfl⟩
  have hdpos : 0 < d := hd ▸ Nat.two_pow_pos _
  have hvalue : fmt.value rank = n / d := by
    rw [← hn, ← hd]
    exact value_eq_div rank
  have hnpos : 0 < n := by
    have : (0 : ℚ) < n / d := by
      rw [← hvalue, ← fmt.value_zero]
      exact value_strictMono hpos
    by_contra hzero
    rw [Nat.eq_zero_of_not_pos hzero] at this
    simp at this
  have hrank : ofRank fmt rank = search fmt rank n d (fmt.fraction + 4)
      (digitCount n - digitCount d + 1) := by
    rw [← hn, ← hd]
    rfl
  have hfound : ∃ j : ℕ, j < fmt.fraction + 4 ∧
      (onGrid? fmt rank n d (digitCount n - digitCount d + 1 - j)).isSome :=
    ⟨fmt.fraction + 3, by omega,
      isSome_onGrid? hfmt hdpos hvalue hfinite (grid_le_gap hnpos hdpos hvalue)⟩
  obtain ⟨units, place, hsearch, hgrid⟩ := search_some hfound
  rw [hrank, hsearch, hvalue]
  exact onGrid?_some hdpos hgrid

lemma units_pos (hfmt : fmt.Regular) (hpos : 0 < rank) (hfinite : rank < fmt.infinity) :
    0 < (ofRank fmt rank).units := by
  obtain ⟨hread, -⟩ := ofRank_spec hfmt hpos hfinite
  by_contra hzero
  rw [Nat.eq_zero_of_not_pos hzero, ofDecimal, if_pos rfl] at hread
  exact absurd hread hpos.ne

end Shortest

end PluginHost
