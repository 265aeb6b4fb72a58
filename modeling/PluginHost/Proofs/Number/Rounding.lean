/-
# Rounding

A finite rank of a format stands for a rational number, its value, and halfway between the values
of two neighbouring ranks lies their midpoint.  A number is rounded to the rank whose two midpoints
enclose it, and a number that is itself a midpoint to the even one of the two ranks
(`Format.Rounds`).  There is only one such rank, the ranks rounded to grow with the number, and the
value of a rank is rounded to this rank.  `Format.round` finds it (`Format.rounds_round`): it looks
for the number between two powers of two, measures it in units of the gap between the ranks there,
and takes the nearest whole number of units.
-/
import Mathlib.Algebra.Order.Field.Power
import Mathlib.Data.Int.Log
import Mathlib.Data.Rat.Floor
import Mathlib.Tactic.FieldSimp
import Mathlib.Tactic.Lemma
import Mathlib.Tactic.Linarith
import Mathlib.Tactic.Positivity
import Mathlib.Tactic.Ring
import PluginHost.Number.Binary

namespace PluginHost

namespace Format

/-! ## Values -/

section Value

variable (fmt : Format)

/-- The distance of a rank from the next one. -/
def gap (rank : ℕ) : ℚ := 2 ^ fmt.power rank

/-- The number that a rank stands for. -/
def value (rank : ℕ) : ℚ := fmt.significand rank * fmt.gap rank

/-- The number halfway between a rank and the next one. -/
def midpoint (rank : ℕ) : ℚ := fmt.value rank + fmt.gap rank / 2

variable {fmt}

/-- A rank consists of the number of doublings of the smallest gap, and of the significand. -/
lemma exists_parts (rank : ℕ) : ∃ k N : ℕ, N < 2 * 2 ^ fmt.fraction ∧
    (k = 0 ∨ 2 ^ fmt.fraction ≤ N) ∧ rank = k * 2 ^ fmt.fraction + N := by
  have hpos : 0 < 2 ^ fmt.fraction := Nat.two_pow_pos _
  generalize 2 ^ fmt.fraction = P at hpos ⊢
  by_cases hsmall : rank < P
  · exact ⟨0, rank, by omega, .inl rfl, by simp⟩
  · have hdiv : rank / P * P + rank % P = rank := by rw [Nat.mul_comm]; exact Nat.div_add_mod rank P
    have hmod : rank % P < P := Nat.mod_lt _ hpos
    have hone : 1 ≤ rank / P := (Nat.le_div_iff_mul_le hpos).2 (by omega)
    obtain ⟨k, hk⟩ : ∃ k, rank / P = k + 1 := ⟨rank / P - 1, by omega⟩
    rw [hk, Nat.add_mul] at hdiv
    exact ⟨k, P + rank % P, by omega, .inr (by omega), by omega⟩

section Parts

variable {k N : ℕ} (hk : k = 0 ∨ 2 ^ fmt.fraction ≤ N)

include hk

lemma significand_parts (hN : N < 2 * 2 ^ fmt.fraction) :
    fmt.significand (k * 2 ^ fmt.fraction + N) = N := by
  rw [significand, Nat.pow_eq]
  generalize 2 ^ fmt.fraction = P at hk hN ⊢
  obtain rfl | hP := hk
  · split
    · omega
    · have hmod : (0 * P + N) % P = N - P := by
        rw [Nat.zero_mul, Nat.zero_add, Nat.mod_eq_sub_mod (by omega), Nat.mod_eq_of_lt (by omega)]
      omega
  · have hmod : (k * P + N) % P = N - P := by
      rw [Nat.add_comm, Nat.add_mul_mod_self_right, Nat.mod_eq_sub_mod (by omega),
        Nat.mod_eq_of_lt (by omega)]
    split
    · have : k * P = 0 := by omega
      omega
    · omega

lemma power_parts (hN : N < 2 * 2 ^ fmt.fraction) :
    fmt.power (k * 2 ^ fmt.fraction + N) = fmt.lowest + k := by
  have hpos : 0 < 2 ^ fmt.fraction := Nat.two_pow_pos _
  rw [power, Nat.pow_eq]
  generalize 2 ^ fmt.fraction = P at hk hN hpos ⊢
  have hdiv : (k * P + N) / P = k + N / P := by
    rw [Nat.add_comm, Nat.add_mul_div_right _ _ hpos, Nat.add_comm]
  rw [hdiv]
  congr 2
  obtain rfl | hP := hk
  · have : N / P < 2 := (Nat.div_lt_iff_lt_mul hpos).2 hN
    omega
  · have : N / P = 1 := Nat.div_eq_of_lt_le (by omega) (by omega)
    omega

lemma value_parts (hN : N ≤ 2 * 2 ^ fmt.fraction) :
    fmt.value (k * 2 ^ fmt.fraction + N) = N * 2 ^ (fmt.lowest + k) := by
  obtain hN | rfl := Nat.lt_or_eq_of_le hN
  · rw [value, gap, significand_parts hk hN, power_parts hk hN]
  · -- the largest significand and one more is the smallest one with twice the gap
    have hsame : k * 2 ^ fmt.fraction + 2 * 2 ^ fmt.fraction =
        (k + 1) * 2 ^ fmt.fraction + 2 ^ fmt.fraction := by ring
    have hpos : 0 < 2 ^ fmt.fraction := Nat.two_pow_pos _
    have hhalf : 2 ^ fmt.fraction < 2 * 2 ^ fmt.fraction := by omega
    rw [hsame, value, gap, significand_parts (.inr le_rfl) hhalf, power_parts (.inr le_rfl) hhalf]
    push_cast
    rw [← add_assoc, zpow_add_one₀ (by norm_num)]
    ring

end Parts

/-- The midpoint behind a rank lies half of a unit behind its significand. -/
lemma midpoint_parts {k N : ℕ} (hk : k = 0 ∨ 2 ^ fmt.fraction ≤ N)
    (hN : N < 2 * 2 ^ fmt.fraction) :
    fmt.midpoint (k * 2 ^ fmt.fraction + N) = (N + 1 / 2) * 2 ^ (fmt.lowest + k) := by
  rw [midpoint, value_parts hk hN.le, gap, power_parts hk hN]
  ring

/-- Behind the largest significand and one more it lies a whole unit. -/
lemma midpoint_parts_full (k : ℕ) :
    fmt.midpoint (k * 2 ^ fmt.fraction + 2 * 2 ^ fmt.fraction) =
      ((2 * 2 ^ fmt.fraction : ℕ) + 1) * 2 ^ (fmt.lowest + k) := by
  have hpos : 0 < 2 ^ fmt.fraction := Nat.two_pow_pos _
  have hsame : k * 2 ^ fmt.fraction + 2 * 2 ^ fmt.fraction =
      (k + 1) * 2 ^ fmt.fraction + 2 ^ fmt.fraction := by ring
  rw [hsame, midpoint_parts (.inr le_rfl) (by omega)]
  push_cast
  rw [← add_assoc, zpow_add_one₀ (by norm_num)]
  ring

lemma significand_lt (rank : ℕ) : fmt.significand rank < 2 * 2 ^ fmt.fraction := by
  obtain ⟨k, N, hN, hk, rfl⟩ := fmt.exists_parts rank
  rwa [significand_parts hk hN]

lemma gap_pos (rank : ℕ) : 0 < fmt.gap rank := zpow_pos (by norm_num) _

lemma value_succ (rank : ℕ) : fmt.value (rank + 1) = fmt.value rank + fmt.gap rank := by
  obtain ⟨k, N, hN, hk, rfl⟩ := fmt.exists_parts rank
  rw [Nat.add_assoc, value_parts (hk.imp_right fun h => by omega) (by omega), value_parts hk hN.le,
    gap, power_parts hk hN]
  push_cast
  ring

/-- The gap stays the same or is doubled. -/
lemma gap_succ (rank : ℕ) : fmt.gap (rank + 1) = fmt.gap rank ∨
    fmt.gap (rank + 1) = 2 * fmt.gap rank := by
  obtain ⟨k, N, hN, hk, rfl⟩ := fmt.exists_parts rank
  obtain hlt | heq : N + 1 < 2 * 2 ^ fmt.fraction ∨ N + 1 = 2 * 2 ^ fmt.fraction := by omega
  · left
    rw [Nat.add_assoc, gap, gap, power_parts (hk.imp_right fun h => by omega) hlt,
      power_parts hk hN]
  · right
    have hpos : 0 < 2 ^ fmt.fraction := Nat.two_pow_pos _
    have hnext : k * 2 ^ fmt.fraction + N + 1 = (k + 1) * 2 ^ fmt.fraction + 2 ^ fmt.fraction := by
      rw [Nat.add_assoc, heq]
      ring
    rw [hnext, gap, gap, power_parts (.inr le_rfl) (by omega), power_parts hk hN]
    push_cast
    rw [← add_assoc, zpow_add_one₀ (by norm_num)]
    ring

lemma value_strictMono : StrictMono fmt.value :=
  strictMono_nat_of_lt_succ fun rank => by
    rw [value_succ]
    exact lt_add_of_pos_right _ (gap_pos rank)

lemma value_zero : fmt.value 0 = 0 := by
  have hpos : 0 < 2 ^ fmt.fraction := Nat.two_pow_pos _
  have hzero : fmt.value (0 * 2 ^ fmt.fraction + 0) = (0 : ℕ) * 2 ^ (fmt.lowest + (0 : ℕ)) :=
    value_parts (.inl rfl) (by omega)
  simpa using hzero

lemma value_lt_midpoint (rank : ℕ) : fmt.value rank < fmt.midpoint rank := by
  have := fmt.gap_pos rank
  rw [midpoint]
  linarith

lemma midpoint_lt_value (rank : ℕ) : fmt.midpoint rank < fmt.value (rank + 1) := by
  have := fmt.gap_pos rank
  rw [midpoint, value_succ]
  linarith

lemma midpoint_strictMono : StrictMono fmt.midpoint :=
  strictMono_nat_of_lt_succ fun rank =>
    (midpoint_lt_value rank).trans (value_lt_midpoint (rank + 1))

end Value

/-! ## Being rounded -/

/-- A number is rounded to a rank: it lies between the midpoints next to the value of the rank, and
it is one of them only if the rank is even. -/
structure Rounds (fmt : Format) (v : ℚ) (rank : ℕ) : Prop where
  /-- It is not nearer to the rank below. -/
  above : ∀ below, below + 1 = rank → fmt.midpoint below < v ∨ fmt.midpoint below = v ∧ Even rank
  /-- It is not nearer to the rank above. -/
  below : v < fmt.midpoint rank ∨ v = fmt.midpoint rank ∧ Even rank

namespace Rounds

variable {fmt : Format} {v w : ℚ} {rank other : ℕ}

lemma midpoint_le (h : fmt.Rounds v rank) (hlt : other < rank) : fmt.midpoint other ≤ v := by
  obtain ⟨below, rfl⟩ : ∃ below, rank = below + 1 := ⟨rank - 1, by omega⟩
  have hle : fmt.midpoint other ≤ fmt.midpoint below :=
    midpoint_strictMono.monotone (Nat.lt_succ_iff.1 hlt)
  obtain hlt | ⟨heq, -⟩ := h.above below rfl
  · exact hle.trans hlt.le
  · exact hle.trans heq.le

lemma le_midpoint (h : fmt.Rounds v rank) (hle : rank ≤ other) : v ≤ fmt.midpoint other := by
  have hle : fmt.midpoint rank ≤ fmt.midpoint other := midpoint_strictMono.monotone hle
  obtain hlt | ⟨heq, -⟩ := h.below
  · exact hlt.le.trans hle
  · exact heq.le.trans hle

/-- The larger the number, the larger the rank. -/
lemma mono (hv : fmt.Rounds v rank) (hw : fmt.Rounds w other) (hle : v ≤ w) : rank ≤ other := by
  by_contra hlt
  rw [not_le] at hlt
  -- both numbers would be the midpoint in front of `rank`, and both ranks even
  have hbelow := hv.midpoint_le hlt
  have habove := hw.le_midpoint le_rfl
  have hv_eq : v = fmt.midpoint other := le_antisymm (hle.trans habove) hbelow
  have hw_eq : w = fmt.midpoint other := le_antisymm habove (hbelow.trans hle)
  obtain ⟨next, rfl⟩ : ∃ next, rank = next + 1 := ⟨rank - 1, by omega⟩
  obtain hlt' | ⟨heq, heven⟩ := hv.above next rfl
  · rw [hv_eq] at hlt'
    exact absurd (midpoint_strictMono.lt_iff_lt.1 hlt') (by omega)
  · obtain rfl : next = other := midpoint_strictMono.injective (heq.trans hv_eq)
    obtain hlt'' | ⟨-, heven'⟩ := hw.below
    · exact absurd hw_eq hlt''.ne
    · exact Nat.even_add_one.1 heven heven'

lemma unique (h : fmt.Rounds v rank) (h' : fmt.Rounds v other) : rank = other :=
  le_antisymm (h.mono h' le_rfl) (h'.mono h le_rfl)

end Rounds

lemma rounds_value (fmt : Format) (rank : ℕ) : fmt.Rounds (fmt.value rank) rank := by
  refine ⟨?_, .inl (value_lt_midpoint rank)⟩
  rintro below rfl
  exact .inl (midpoint_lt_value below)

lemma Rounds.le_of_le_value {fmt : Format} {v : ℚ} {rank other : ℕ} (h : fmt.Rounds v rank)
    (hle : v ≤ fmt.value other) : rank ≤ other :=
  h.mono (fmt.rounds_value other) hle

/-! ## The nearest whole number -/

section Nearest

/-- The nearest whole number is at most one half away, and it is even if it is one half away. -/
lemma nearest_spec (n : ℕ) {d : ℕ} (hd : 0 < d) :
    (2 * n ≤ (2 * nearest n d + 1) * d ∧ 2 * nearest n d * d ≤ 2 * n + d) ∧
      (2 * n = (2 * nearest n d + 1) * d → Even (nearest n d)) ∧
      (2 * nearest n d * d = 2 * n + d → Even (nearest n d)) := by
  have hn : n / d * d + n % d = n := by rw [Nat.mul_comm]; exact Nat.div_add_mod n d
  have hmod : n % d < d := Nat.mod_lt _ hd
  have hcases : nearest n d = n / d ∧ 2 * (n % d) < d ∨
      nearest n d = n / d + 1 ∧ d < 2 * (n % d) ∨
      nearest n d = n / d + n / d % 2 ∧ 2 * (n % d) = d := by
    simp only [nearest]
    split
    · exact .inl ⟨rfl, ‹_›⟩
    · split
      · exact .inr (.inl ⟨rfl, ‹_›⟩)
      · exact .inr (.inr ⟨rfl, by omega⟩)
  generalize n / d = q at *
  generalize n % d = r at *
  obtain ⟨heq, hr⟩ | ⟨heq, hr⟩ | ⟨heq, hr⟩ := hcases
  · rw [heq, Nat.add_mul, Nat.mul_assoc]
    refine ⟨⟨by omega, by omega⟩, fun h => by omega, fun h => by omega⟩
  · rw [heq, Nat.mul_add, Nat.add_mul, Nat.add_mul, Nat.mul_assoc]
    refine ⟨⟨by omega, by omega⟩, fun h => by omega, fun h => by omega⟩
  · have heven : Even (q + q % 2) := by rw [Nat.even_iff]; omega
    rw [heq]
    refine ⟨?_, fun _ => heven, fun _ => heven⟩
    rw [Nat.mul_add, Nat.add_mul, Nat.add_mul, Nat.mul_assoc]
    obtain h | h : q % 2 = 0 ∨ q % 2 = 1 := by omega
    · rw [h]
      omega
    · rw [h]
      omega

/-- The same for the quotient itself. -/
lemma nearest_near (n : ℕ) {d : ℕ} (hd : 0 < d) :
    ((nearest n d - 1 / 2 : ℚ) < n / d ∨ (nearest n d - 1 / 2 : ℚ) = n / d ∧ Even (nearest n d)) ∧
      ((n / d : ℚ) < nearest n d + 1 / 2 ∨
        (n / d : ℚ) = nearest n d + 1 / 2 ∧ Even (nearest n d)) := by
  obtain ⟨⟨hbelow, habove⟩, hbelow_even, habove_even⟩ := nearest_spec n hd
  have hd' : (0 : ℚ) < d := by exact_mod_cast hd
  generalize nearest n d = N at *
  constructor
  · obtain hlt | heq := Nat.lt_or_eq_of_le habove
    · left
      have hlt' : (2 * N * d : ℚ) < 2 * n + d := by exact_mod_cast hlt
      rw [lt_div_iff₀ hd']
      linarith
    · right
      have heq' : (2 * N * d : ℚ) = 2 * n + d := by exact_mod_cast heq
      refine ⟨?_, habove_even heq⟩
      rw [eq_div_iff hd'.ne']
      linarith
  · obtain hlt | heq := Nat.lt_or_eq_of_le hbelow
    · left
      have hlt' : (2 * n : ℚ) < (2 * N + 1) * d := by exact_mod_cast hlt
      rw [div_lt_iff₀ hd']
      linarith
    · right
      have heq' : (2 * n : ℚ) = (2 * N + 1) * d := by exact_mod_cast heq
      refine ⟨?_, hbelow_even heq⟩
      rw [div_eq_iff hd'.ne']
      linarith

variable {x : ℚ} {N P : ℕ}

/-- The nearest whole number does not leave the range that the number itself lies in. -/
lemma nearest_le (hnear : (N : ℚ) - 1 / 2 ≤ x) (hlt : x < P) : N ≤ P := by
  have hlt' : (N : ℚ) < (P + 1 : ℕ) := by
    push_cast
    linarith
  exact Nat.lt_succ_iff.1 (by exact_mod_cast hlt')

lemma le_nearest (hnear : x ≤ (N : ℚ) + 1 / 2) (hle : (P : ℚ) ≤ x) : P ≤ N := by
  have hlt : (P : ℚ) < (N + 1 : ℕ) := by
    push_cast
    linarith
  exact Nat.lt_succ_iff.1 (by exact_mod_cast hlt)

end Nearest

/-! ## Rounding -/

section Round

variable {fmt : Format} {v : ℚ}

lemma pow_toNat_div (b : ℚ) (q : ℤ) : b ^ q.toNat / b ^ (-q).toNat = b ^ q := by
  obtain ⟨n, rfl | rfl⟩ := q.eq_nat_or_neg
  · simp
  · simp

/-- The value as a fraction of whole numbers. -/
lemma value_eq_div (rank : ℕ) : fmt.value rank =
    (fmt.significand rank * Nat.pow 2 (fmt.power rank).toNat : ℕ) /
      (Nat.pow 2 (-fmt.power rank).toNat : ℕ) := by
  rw [value, gap, ← pow_toNat_div 2, Nat.pow_eq, Nat.pow_eq]
  push_cast
  rw [mul_div_assoc]

/-- Numerator and denominator are those of the number, measured in units of `2 ^ q`. -/
lemma scaled_eq (n d : ℕ) (q : ℤ) : (scaledNum n q : ℚ) / scaledDen d q = n / d / 2 ^ q := by
  rw [← pow_toNat_div 2 q, scaledNum, scaledDen, Nat.pow_eq, Nat.pow_eq]
  push_cast
  rw [div_div_div_eq, mul_comm (d : ℚ)]

lemma scaledDen_pos {d : ℕ} (hd : 0 < d) (q : ℤ) : 0 < scaledDen d q :=
  Nat.mul_pos hd (Nat.two_pow_pos _)

/-- The binary digits of numerator and denominator tell two powers of two between which the number
lies. -/
lemma log2_sub_log2 {n d : ℕ} (hn : 0 < n) (hd : 0 < d) :
    (2 : ℚ) ^ ((n.log2 : ℤ) - d.log2 - 1) ≤ n / d ∧
      (n / d : ℚ) < 2 ^ ((n.log2 : ℤ) - d.log2 + 1) := by
  have hn' : (0 : ℚ) < n := by exact_mod_cast hn
  have hd' : (0 : ℚ) < d := by exact_mod_cast hd
  have hnlow : (2 : ℚ) ^ n.log2 ≤ n := by exact_mod_cast Nat.log2_self_le hn.ne'
  have hnhigh : (n : ℚ) < 2 ^ (n.log2 + 1) := by exact_mod_cast Nat.lt_log2_self (n := n)
  have hdlow : (2 : ℚ) ^ d.log2 ≤ d := by exact_mod_cast Nat.log2_self_le hd.ne'
  have hdhigh : (d : ℚ) < 2 ^ (d.log2 + 1) := by exact_mod_cast Nat.lt_log2_self (n := d)
  constructor
  · rw [le_div_iff₀ hd', sub_sub, zpow_sub₀ (by norm_num), div_mul_eq_mul_div,
      div_le_iff₀ (by positivity)]
    exact mul_le_mul hnlow hdhigh.le hd'.le hn'.le
  · rw [div_lt_iff₀ hd', sub_add_eq_add_sub, zpow_sub₀ (by norm_num), div_mul_eq_mul_div,
      lt_div_iff₀ (by positivity)]
    exact mul_lt_mul hnhigh hdlow (by positivity) (by positivity)

/-- The integer logarithm is told by the powers of two next to the number. -/
lemma eq_log {k : ℤ} (hv : 0 < v) (hle : (2 : ℚ) ^ k ≤ v) (hlt : v < 2 ^ (k + 1)) :
    k = Int.log 2 v := by
  have htwo : ((2 : ℕ) : ℚ) = 2 := by norm_num
  rw [← htwo] at hle hlt
  have hlow := (Int.zpow_le_iff_le_log (by norm_num) hv).1 hle
  have hhigh := (Int.lt_zpow_iff_log_lt (by norm_num) hv).1 hlt
  omega

/-- The number lies between this power of two and the next one. -/
lemma magnitude_eq {n d : ℕ} (hn : 0 < n) (hd : 0 < d) : magnitude n d = Int.log 2 (n / d : ℚ) := by
  have hv : (0 : ℚ) < n / d := div_pos (by exact_mod_cast hn) (by exact_mod_cast hd)
  obtain ⟨hlow, hhigh⟩ := log2_sub_log2 hn hd
  simp only [magnitude]
  generalize (n.log2 : ℤ) - d.log2 = k at hlow hhigh ⊢
  have hden : (0 : ℚ) < scaledDen d k := by exact_mod_cast scaledDen_pos hd _
  have hbelow : scaledNum n k < scaledDen d k ↔ (n / d : ℚ) < 2 ^ k := by
    rw [← Nat.cast_lt (α := ℚ), ← div_lt_one hden, scaled_eq, div_lt_one (by positivity)]
  split
  · next h => exact eq_log hv hlow (by simpa using hbelow.1 h)
  · next h => exact eq_log hv (not_lt.1 (mt hbelow.2 h)) hhigh

/-- A number whose nearest whole number of units is `N` is rounded to the rank with the significand
`N`, if there are as many units in it as a significand has at least. -/
lemma rounds_parts {k N : ℕ} (hfraction : 0 < fmt.fraction) (hk : k = 0 ∨ 2 ^ fmt.fraction ≤ N)
    (hN : N ≤ 2 * 2 ^ fmt.fraction) (hlow : k = 0 ∨ 2 ^ fmt.fraction * 2 ^ (fmt.lowest + k) ≤ v)
    (habove : (N - 1 / 2) * 2 ^ (fmt.lowest + k) < v ∨
      (N - 1 / 2) * 2 ^ (fmt.lowest + k) = v ∧ Even N)
    (hbelow : v < (N + 1 / 2) * 2 ^ (fmt.lowest + k) ∨
      v = (N + 1 / 2) * 2 ^ (fmt.lowest + k) ∧ Even N) :
    fmt.Rounds v (k * 2 ^ fmt.fraction + N) := by
  have hunit : (0 : ℚ) < 2 ^ (fmt.lowest + k) := by positivity
  have hparity : Even (k * 2 ^ fmt.fraction + N) ↔ Even N := by
    have heven : Even (k * 2 ^ fmt.fraction) :=
      (Nat.even_pow.2 ⟨even_two, hfraction.ne'⟩).mul_left k
    exact ⟨fun h => (Nat.even_add.1 h).1 heven, fun h => heven.add h⟩
  have hvalue := value_parts hk hN
  constructor
  · intro below hrank
    rw [hparity]
    by_cases hstep : 1 ≤ N ∧ (k = 0 ∨ 2 ^ fmt.fraction ≤ N - 1)
    · -- the gap below is the same
      obtain ⟨M, rfl⟩ : ∃ M, N = M + 1 := ⟨N - 1, by omega⟩
      obtain rfl : below = k * 2 ^ fmt.fraction + M := by omega
      have hmid : fmt.midpoint (k * 2 ^ fmt.fraction + M) =
          ((M + 1 : ℕ) - 1 / 2) * 2 ^ (fmt.lowest + k) := by
        rw [midpoint_parts (by simpa using hstep.2) (by omega)]
        push_cast
        ring
      rwa [hmid]
    · -- the gap below is half as large, so the number is far from the midpoint there
      left
      have hpos : 0 < 2 ^ fmt.fraction := Nat.two_pow_pos _
      obtain rfl : N = 2 ^ fmt.fraction := by
        obtain rfl | hP := hk
        · omega
        · omega
      have hk0 : k ≠ 0 := by
        rintro rfl
        omega
      refine (midpoint_lt_value below).trans_le ?_
      rw [hrank, hvalue]
      exact_mod_cast hlow.resolve_left hk0
  · rw [hparity]
    obtain hN' | rfl := Nat.lt_or_eq_of_le hN
    · rwa [midpoint_parts hk hN']
    · -- the gap above is twice as large
      left
      rw [midpoint_parts_full]
      have hle : v ≤ ((2 * 2 ^ fmt.fraction : ℕ) + 1 / 2) * 2 ^ (fmt.lowest + k) := by
        obtain h | ⟨h, -⟩ := hbelow
        · exact h.le
        · exact h.le
      refine hle.trans_lt ?_
      gcongr
      norm_num

/-- Every number is rounded to a rank, and this is the one that is computed; the ranks behind
infinity are cut off. -/
theorem rounds_round (hfraction : 0 < fmt.fraction) (n : ℕ) {d : ℕ} (hd : 0 < d) :
    ∃ rank, fmt.Rounds (n / d) rank ∧ fmt.round n d = min fmt.infinity rank := by
  obtain rfl | hn := Nat.eq_zero_or_pos n
  · refine ⟨0, ?_, by simp [round]⟩
    simpa [value_zero] using fmt.rounds_value 0
  · have hv : (0 : ℚ) < n / d := div_pos (by exact_mod_cast hn) (by exact_mod_cast hd)
    have hround : fmt.round n d = min fmt.infinity
        ((max fmt.lowest (magnitude n d - fmt.fraction) - fmt.lowest).toNat * 2 ^ fmt.fraction +
          nearest (scaledNum n (max fmt.lowest (magnitude n d - fmt.fraction)))
            (scaledDen d (max fmt.lowest (magnitude n d - fmt.fraction)))) := by
      rw [round, if_neg hn.ne']
      rfl
    refine ⟨_, ?_, hround⟩
    rw [magnitude_eq hn hd]
    have hlow := Int.zpow_log_le_self (b := 2) (by norm_num) hv
    have hhigh := Int.lt_zpow_succ_log_self (b := 2) (by norm_num) (n / d : ℚ)
    push_cast at hlow hhigh
    generalize hlog : Int.log 2 (n / d : ℚ) = m at hlow hhigh ⊢
    obtain ⟨q, hq⟩ : ∃ q, max fmt.lowest (m - fmt.fraction) = q := ⟨_, rfl⟩
    obtain ⟨k, hk⟩ : ∃ k : ℕ, fmt.lowest + k = q := ⟨(q - fmt.lowest).toNat, by omega⟩
    have hksub : (q - fmt.lowest).toNat = k := by omega
    obtain ⟨habove, hbelow⟩ := nearest_near (scaledNum n q) (scaledDen_pos hd q)
    rw [scaled_eq] at habove hbelow
    rw [hq, hksub]
    generalize nearest (scaledNum n q) (scaledDen d q) = N at habove hbelow ⊢
    have hunit : (0 : ℚ) < 2 ^ q := by positivity
    have hsteps : (n / d : ℚ) / 2 ^ q < 2 * 2 ^ fmt.fraction := by
      rw [div_lt_iff₀ hunit, ← pow_succ', ← zpow_natCast, ← zpow_add₀ (by norm_num)]
      refine hhigh.trans_le (zpow_le_zpow_right₀ (by norm_num) ?_)
      push_cast
      omega
    have hleast : k = 0 ∨ (2 ^ fmt.fraction : ℚ) ≤ (n / d : ℚ) / 2 ^ q := by
      refine (Nat.eq_zero_or_pos k).imp_right fun hkpos => ?_
      rw [le_div_iff₀ hunit, ← zpow_natCast, ← zpow_add₀ (by norm_num)]
      exact (zpow_le_zpow_right₀ (by norm_num) (by omega)).trans hlow
    have hN : N ≤ 2 * 2 ^ fmt.fraction :=
      nearest_le (habove.elim le_of_lt fun h => h.1.le) (by exact_mod_cast hsteps)
    have hk' : k = 0 ∨ 2 ^ fmt.fraction ≤ N :=
      hleast.imp_right fun hle =>
        le_nearest (hbelow.elim le_of_lt fun h => h.1.le) (by exact_mod_cast hle)
    rw [← hk] at habove hbelow hleast hunit
    refine rounds_parts hfraction hk' hN ?_ ?_ ?_
    · refine hleast.imp_right fun hle => ?_
      rwa [le_div_iff₀ hunit] at hle
    · rwa [lt_div_iff₀ hunit, eq_div_iff hunit.ne'] at habove
    · rwa [div_lt_iff₀ hunit, div_eq_iff hunit.ne'] at hbelow

/-- Every number that is not negative is rounded to a rank. -/
lemma exists_rounds (hfraction : 0 < fmt.fraction) (hv : 0 ≤ v) : ∃ rank, fmt.Rounds v rank := by
  obtain ⟨rank, hrank, -⟩ := rounds_round hfraction v.num.toNat v.pos
  have hnum : ((v.num.toNat : ℕ) : ℚ) = v.num := by
    exact_mod_cast Int.toNat_of_nonneg (Rat.num_nonneg.2 hv)
  rw [hnum, Rat.num_div_den] at hrank
  exact ⟨rank, hrank⟩

lemma round_eq (hfraction : 0 < fmt.fraction) {n d rank : ℕ} (hd : 0 < d)
    (h : fmt.Rounds (n / d) rank) : fmt.round n d = min fmt.infinity rank := by
  obtain ⟨rank', hrank', hround⟩ := rounds_round hfraction n hd
  rw [hround, hrank'.unique h]

end Round

/-! ## Exact values -/

section Exact

variable {fmt : Format}

/-- A whole number of units is the value of a rank, if it is not larger than the significands
are. -/
lemma exists_value_eq (k : ℕ) {N : ℕ} (hN : N ≤ 2 * 2 ^ fmt.fraction) :
    ∃ rank, fmt.value rank = N * 2 ^ (fmt.lowest + k) := by
  induction k generalizing N with
  | zero => exact ⟨_, value_parts (.inl rfl) hN⟩
  | succ k ih =>
    by_cases hlow : 2 ^ fmt.fraction ≤ N
    · exact ⟨_, value_parts (.inr hlow) hN⟩
    · -- a small significand is doubled, with units half as large
      obtain ⟨rank, hrank⟩ := ih (N := 2 * N) (by omega)
      refine ⟨rank, hrank.trans ?_⟩
      push_cast
      rw [← add_assoc, zpow_add_one₀ (by norm_num)]
      ring

/-- Infinity takes the place of the first power of two behind the largest number. -/
lemma value_infinity (hexponent : 0 < fmt.exponent) :
    fmt.value fmt.infinity = 2 ^ 2 ^ (fmt.exponent - 1) := by
  obtain ⟨e, he⟩ : ∃ e, fmt.exponent = e + 1 := ⟨fmt.exponent - 1, by omega⟩
  have htwo : 2 ^ fmt.exponent = 2 * 2 ^ e := by rw [he, pow_succ']
  have hpos : 0 < 2 ^ e := Nat.two_pow_pos e
  have hparts : fmt.infinity =
      (2 * 2 ^ e - 2) * 2 ^ fmt.fraction + 2 ^ fmt.fraction := by
    rw [infinity, Nat.pow_eq, Nat.pow_eq, htwo, ← Nat.succ_mul]
    congr 1
    omega
  have hpower : ((fmt.fraction : ℕ) : ℤ) + (fmt.lowest + (2 * 2 ^ e - 2 : ℕ)) = (2 ^ e : ℕ) := by
    rw [lowest, Nat.pow_eq, he, Nat.add_sub_cancel]
    omega
  rw [hparts, value_parts (.inr le_rfl) (by omega), he, Nat.add_sub_cancel]
  push_cast
  rw [← zpow_natCast 2 fmt.fraction, ← zpow_add₀ (by norm_num), hpower, zpow_natCast]

end Exact

end Format

end PluginHost
