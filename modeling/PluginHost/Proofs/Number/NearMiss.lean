/-
# Near misses

How near can a multiple of `a` come to a multiple `m * b` without meeting it, if `m` stays below a
limit?  A `Misses` is a pair of near misses: a multiple of `a` that goes beyond its multiple of `b`,
and one that falls short.  To begin with these are `a` itself and `b` itself, and each step of
Euclid's algorithm takes the smaller error off the larger one as often as possible.  All the while
every difference of two multiples is a whole combination of the two misses (`Misses.Spans`).  Once
the two multiples of `b` together are beyond the limit, a combination that stays below it cannot use
both of them in the same direction, so that its error is no smaller than theirs
(`Misses.Spans.cases`).

With this the midpoints between the ranks of thirty-two bits are compared with the decimals of a
grid (`Grid.far_from_midpoint`).  One step of the algorithm is a few operations on numbers, and
there are 254 gaps to be looked at, each with the coarsest grid that matters; the finer ones consist
of the same decimals.
-/
import Mathlib.Data.Int.GCD
import Mathlib.Tactic.Linarith
import Mathlib.Tactic.LinearCombination
import Mathlib.Tactic.Ring
import PluginHost.Proofs.Number.Rounding

namespace PluginHost

/-- A multiple of a number `a` that goes beyond a multiple of a number `b`, and one that falls
short of one. -/
structure Misses where
  /-- The multiple of `b` that the first one goes beyond. -/
  beyond : ℕ
  /-- How far it goes beyond. -/
  excess : ℕ
  /-- The multiple of `b` that the second one falls short of. -/
  short : ℕ
  /-- How far it falls short. -/
  lack : ℕ
deriving DecidableEq, Repr

namespace Misses

/-- The number `a` goes beyond nothing, and nothing falls short of the number `b`. -/
def start (a b : ℕ) : Misses := ⟨0, a, 1, b⟩

/-- The smaller error is taken off the larger one as often as it fits, but not beyond the limit. -/
def next (limit : ℕ) (x : Misses) : Misses :=
  if x.lack ≤ x.excess then
    let times := min (x.excess / x.lack) ((limit - x.beyond) / x.short)
    { x with beyond := x.beyond + times * x.short, excess := x.excess - times * x.lack }
  else
    let times := min (x.lack / x.excess) ((limit - x.short) / x.beyond)
    { x with short := x.short + times * x.beyond, lack := x.lack - times * x.excess }

/-- The errors are made smaller until the two multiples together reach the limit. -/
def reduce (limit : ℕ) : ℕ → Misses → Misses
  | 0, x => x
  | fuel + 1, x => if limit ≤ x.beyond + x.short then x else reduce limit fuel (x.next limit)

/-- Every difference of two multiples is a combination of the two misses. -/
def Spans (a b : ℕ) (x : Misses) : Prop :=
  ∀ n m : ℤ, ∃ s t : ℤ,
    n * a - m * b = s * x.excess - t * x.lack ∧ m = s * x.beyond + t * x.short

variable {a b : ℕ} {x : Misses}

lemma spans_start (a b : ℕ) : Spans a b (start a b) :=
  fun n m => ⟨n, m, rfl, by simp [start]⟩

lemma Spans.next (h : Spans a b x) (limit : ℕ) : Spans a b (x.next limit) := by
  intro n m
  obtain ⟨s, t, herror, hmultiple⟩ := h n m
  have hfits (larger smaller room : ℕ) :
      ((larger - min (larger / smaller) room * smaller : ℕ) : ℤ) =
        larger - min (larger / smaller) room * smaller := by
    have hle : min (larger / smaller) room * smaller ≤ larger :=
      (Nat.mul_le_mul_right _ (Nat.min_le_left _ _)).trans (Nat.div_mul_le_self _ _)
    push_cast [hle]
    rfl
  rw [Misses.next]
  split
  · refine ⟨s, t - min (x.excess / x.lack) ((limit - x.beyond) / x.short) * s, ?_, ?_⟩
    · rw [hfits]
      linear_combination herror
    · push_cast
      linear_combination hmultiple
  · refine ⟨s - min (x.lack / x.excess) ((limit - x.short) / x.beyond) * t, t, ?_, ?_⟩
    · rw [hfits]
      linear_combination herror
    · push_cast
      linear_combination hmultiple

lemma Spans.reduce (h : Spans a b x) (limit fuel : ℕ) : Spans a b (reduce limit fuel x) := by
  induction fuel generalizing x with
  | zero => exact h
  | succ fuel ih =>
    rw [Misses.reduce]
    split
    · exact h
    · exact ih (h.next limit)

/-- A difference of multiples that stays below the two multiples together is one of the two misses,
a few times over, or its error is at least that of both. -/
lemma Spans.cases (h : Spans a b x) {n m : ℤ} (hpos : 0 < m) (hlt : m < x.beyond + x.short) :
    (∃ s : ℤ, 0 < s ∧ m = s * x.beyond ∧ |n * a - m * b| = s * x.excess) ∨
      (∃ t : ℤ, 0 < t ∧ m = t * x.short ∧ |n * a - m * b| = t * x.lack) ∨
      (x.excess + x.lack : ℤ) ≤ |n * a - m * b| := by
  obtain ⟨s, t, herror, hmultiple⟩ := h n m
  rw [herror]
  have hover : (0 : ℤ) ≤ x.beyond := Int.natCast_nonneg _
  have hunder : (0 : ℤ) ≤ x.short := Int.natCast_nonneg _
  have hexcess : (0 : ℤ) ≤ x.excess := Int.natCast_nonneg _
  have hlack : (0 : ℤ) ≤ x.lack := Int.natCast_nonneg _
  have hone {c d : ℤ} (hc : 0 < c) (hd : 0 ≤ d) : d ≤ c * d := le_mul_of_one_le_left hd hc
  obtain hs | rfl | hs := lt_trichotomy s 0
  · obtain ht | ht := le_or_gt t 0
    · -- both of them backwards
      have hs' := hone (neg_pos.2 hs) hover
      have ht' := mul_nonneg (neg_nonneg.2 ht) hunder
      linarith
    · right; right
      have hs' := hone (neg_pos.2 hs) hexcess
      have ht' := hone ht hlack
      rw [abs_of_nonpos (by linarith)]
      linarith
  · right; left
    have ht : 0 < t := by
      by_contra ht
      have := mul_nonneg (neg_nonneg.2 (not_lt.1 ht)) hunder
      linarith
    have ht' := hone ht hlack
    refine ⟨t, ht, by linarith, ?_⟩
    rw [abs_of_nonpos (by linarith)]
    ring
  · obtain ht | rfl | ht := lt_trichotomy t 0
    · right; right
      have hs' := hone hs hexcess
      have ht' := hone (neg_pos.2 ht) hlack
      rw [abs_of_nonneg (by linarith)]
      linarith
    · left
      have hs' := hone hs hexcess
      refine ⟨s, hs, by linarith, ?_⟩
      rw [abs_of_nonneg (by linarith)]
      ring
    · -- both of them forwards
      have hs' := hone hs hover
      have ht' := hone ht hunder
      linarith

/-- Whether no difference of multiples below the limit has an error that is `scale` times smaller
than `b`, apart from those with the excepted multiple of `b`. -/
def isClear (excepted limit scale b : ℕ) (x : Misses) : Bool :=
  limit ≤ x.beyond + x.short && (limit ≤ x.beyond || b < scale * x.excess) &&
    (limit ≤ x.short || b < scale * x.lack || (x.short = excepted && limit ≤ 2 * x.short)) &&
    b < scale * (x.excess + x.lack)

lemma Spans.far (h : Spans a b x) {excepted limit scale : ℕ}
    (hclear : x.isClear excepted limit scale b = true) {n m : ℤ} (hpos : 0 < m) (hlt : m < limit) :
    m = excepted ∨ (b : ℤ) < scale * |n * a - m * b| := by
  simp only [isClear, Bool.and_eq_true, Bool.or_eq_true, decide_eq_true_eq] at hclear
  obtain ⟨⟨⟨hlimit, hover⟩, hunder⟩, hboth⟩ := hclear
  zify at hlimit hover hunder hboth
  have hscale : (0 : ℤ) ≤ scale := Int.natCast_nonneg _
  have hone {c d : ℤ} (hc : 0 < c) (hd : 0 ≤ d) : d ≤ c * d := le_mul_of_one_le_left hd hc
  have hfar {d : ℤ} (hd : (b : ℤ) < scale * d) (hle : d ≤ |n * a - m * b|) :
      (b : ℤ) < scale * |n * a - m * b| :=
    hd.trans_le (mul_le_mul_of_nonneg_left hle hscale)
  obtain ⟨s, hs, hmultiple, herror⟩ | ⟨t, ht, hmultiple, herror⟩ | herror :=
    h.cases (n := n) hpos (hlt.trans_le hlimit)
  · right
    obtain hover | hexcess := hover
    · have := hone hs (Int.natCast_nonneg x.beyond)
      omega
    · refine hfar hexcess ?_
      rw [herror]
      exact hone hs (Int.natCast_nonneg _)
  · obtain (hunder | hlack) | ⟨hexcepted, htwice⟩ := hunder
    · have := hone ht (Int.natCast_nonneg x.short)
      omega
    · right
      refine hfar hlack ?_
      rw [herror]
      exact hone ht (Int.natCast_nonneg _)
    · -- twice the excepted multiple is already too large
      left
      obtain rfl : t = 1 := by
        by_contra hne
        have : 2 * (x.short : ℤ) ≤ t * x.short :=
          mul_le_mul_of_nonneg_right (by omega) (Int.natCast_nonneg _)
        omega
      omega
  · exact .inr (hfar hboth herror)

end Misses

/-- Whether the multiples of `a` and `b` either meet or miss each other by more than `b` divided by
`scale`, apart from those with the excepted multiple of `b`. -/
def multiplesFar (excepted limit scale a b : ℕ) : Bool :=
  b < scale * Nat.gcd a b ||
    (Misses.reduce limit 60 (.start a b)).isClear excepted limit scale b

lemma far_of_multiplesFar {excepted limit scale a b : ℕ}
    (h : multiplesFar excepted limit scale a b = true) {n m : ℤ} (hpos : 0 < m) (hlt : m < limit)
    (hne : n * a ≠ m * b) : m = excepted ∨ (b : ℤ) < scale * |n * a - m * b| := by
  simp only [multiplesFar, Bool.or_eq_true, decide_eq_true_eq] at h
  obtain hgcd | hclear := h
  · -- what does not vanish is at least the greatest common divisor
    right
    zify at hgcd
    have hdvd : (Nat.gcd a b : ℤ) ∣ n * a - m * b :=
      dvd_sub (Dvd.dvd.mul_left (by exact_mod_cast Nat.gcd_dvd_left a b) n)
        (Dvd.dvd.mul_left (by exact_mod_cast Nat.gcd_dvd_right a b) m)
    have hle : (Nat.gcd a b : ℤ) ≤ |n * a - m * b| :=
      Int.le_of_dvd (abs_pos.2 (sub_ne_zero.2 hne)) ((dvd_abs _ _).2 hdvd)
    exact hgcd.trans_le (mul_le_mul_of_nonneg_left hle (Int.natCast_nonneg _))
  · exact ((Misses.spans_start a b).reduce limit 60).far hclear hpos hlt

/-! ## Grids and midpoints -/

namespace Grid

/-- The first grid, from fine ones to coarser ones, that is not clearly finer than half of the gap
`2 ^ e`. -/
def coarsest (e : ℤ) : ℤ := -(-((e - 1) * 30103) / 100000)

/-- The numerator of `10 ^ coarsest e / 2 ^ (e - 1)`. -/
def numerator (e : ℤ) : ℕ := Nat.pow 10 (coarsest e).toNat * Nat.pow 2 (-(e - 1)).toNat

/-- The denominator of `10 ^ coarsest e / 2 ^ (e - 1)`. -/
def denominator (e : ℤ) : ℕ := Nat.pow 10 (-coarsest e).toNat * Nat.pow 2 (e - 1).toNat

/-- The gap `2 ^ (j - 149)` is one of those of thirty-two bits.  The two gaps for which there is an
excepted midpoint belong to the same decimal. -/
def excepted (j : ℕ) : ℕ := if j = 42 ∨ j = 43 then 22841339 else 0

/-- No midpoint is close to a decimal of the grid without meeting it, and the next finer grid is
clearly finer than half of the gap. -/
lemma checked : ∀ j < 254,
    multiplesFar (excepted j) (Nat.pow 2 25) (Nat.pow 2 29) (numerator (j - 149))
        (denominator (j - 149)) = true ∧
      Nat.pow 2 29 * numerator (j - 149) < 10 * denominator (j - 149) * (Nat.pow 2 29 - 1) := by
  decide +kernel

variable {e : ℤ}

lemma numerator_div_denominator (e : ℤ) :
    (numerator e : ℚ) / denominator e = 10 ^ coarsest e / 2 ^ (e - 1) := by
  rw [numerator, denominator, ← Format.pow_toNat_div 10 (coarsest e),
    ← Format.pow_toNat_div 2 (e - 1), Nat.pow_eq, Nat.pow_eq, Nat.pow_eq, Nat.pow_eq, div_div_div_eq]
  push_cast
  rfl

lemma denominator_pos (e : ℤ) : 0 < denominator e :=
  Nat.mul_pos (Nat.pow_pos (by norm_num)) (Nat.two_pow_pos _)

/-- The unit of the coarsest grid, in halves of the gap. -/
lemma pow_coarsest (e : ℤ) :
    (10 : ℚ) ^ coarsest e = numerator e / denominator e * 2 ^ (e - 1) := by
  rw [numerator_div_denominator, div_mul_cancel₀ _ (by positivity)]

/-- The gap of sixty-four bits, in halves of the gap of thirty-two bits. -/
lemma pow_sub_thirty (e : ℤ) : (2 : ℚ) ^ (e - 30) = 2 ^ (e - 1) / 2 ^ 29 := by
  rw [← zpow_natCast, ← zpow_sub₀ (by norm_num)]
  congr 1
  push_cast
  ring

/-- A decimal whose grid is not clearly finer than half of the gap lies on the grid that was looked
at. -/
lemma coarsest_le {k : ℤ}
    (hfine : Nat.pow 2 29 * numerator e < 10 * denominator e * (Nat.pow 2 29 - 1))
    (hcoarse : (2 ^ (e - 1) - 2 ^ (e - 30) : ℚ) ≤ 10 ^ k) : coarsest e ≤ k := by
  have hden : (0 : ℚ) < denominator e := by exact_mod_cast denominator_pos e
  have hhalf : (0 : ℚ) < 2 ^ (e - 1) := by positivity
  have hratio : (numerator e / denominator e : ℚ) < 10 * (2 ^ 29 - 1) / 2 ^ 29 := by
    have hfine' : ((2 ^ 29 * numerator e : ℕ) : ℚ) <
        (10 * denominator e * (2 ^ 29 - 1) : ℕ) := by exact_mod_cast hfine
    push_cast at hfine'
    rw [div_lt_div_iff₀ hden (by positivity)]
    linarith
  by_contra hfiner
  have hstep : (10 : ℚ) ^ k ≤ 10 ^ coarsest e / 10 := by
    rw [div_eq_mul_inv, ← zpow_sub_one₀ (by norm_num)]
    exact zpow_le_zpow_right₀ (by norm_num) (by omega)
  rw [pow_coarsest] at hstep
  rw [pow_sub_thirty] at hcoarse
  have := mul_lt_mul_of_pos_right hratio hhalf
  linarith

/-- How far a decimal of this grid is from a multiple of half of the gap is the difference of two
whole multiples. -/
lemma error_eq (units m p : ℕ) (e : ℤ) :
    (units * 10 ^ (coarsest e + p) - m * 2 ^ (e - 1) : ℚ) =
      (((units * 10 ^ p : ℕ) : ℤ) * numerator e - (m : ℤ) * denominator e : ℤ) *
        (2 ^ (e - 1) / denominator e) := by
  have hden : (denominator e : ℚ) ≠ 0 := by exact_mod_cast (denominator_pos e).ne'
  rw [zpow_add₀ (by norm_num), pow_coarsest, zpow_natCast]
  push_cast
  field_simp

/-- A decimal whose grid is not clearly finer than half of the gap `2 ^ e` is a multiple of half of
the gap, or farther from it than the numbers of sixty-four bits are from each other there; there is
one excepted midpoint. -/
theorem far_from_midpoint (hlow : -149 ≤ e) (hhigh : e < 105) {m units : ℕ} {k : ℤ} (hpos : 0 < m)
    (hlt : m < 2 ^ 25) (hcoarse : (2 ^ (e - 1) - 2 ^ (e - 30) : ℚ) ≤ 10 ^ k)
    (hne : (units * 10 ^ k : ℚ) ≠ m * 2 ^ (e - 1)) :
    ((e = -107 ∨ e = -106) ∧ m = 22841339) ∨
      (2 ^ (e - 30) : ℚ) < |(units * 10 ^ k - m * 2 ^ (e - 1) : ℚ)| := by
  obtain ⟨j, rfl⟩ : ∃ j : ℕ, e = j - 149 := ⟨(e + 149).toNat, by omega⟩
  obtain ⟨hfar, hfine⟩ := checked j (by omega)
  have hle := coarsest_le hfine hcoarse
  obtain ⟨p, rfl⟩ : ∃ p : ℕ, k = coarsest (j - 149) + p :=
    ⟨(k - coarsest (j - 149)).toNat, by omega⟩
  have herror := error_eq units m p (j - 149)
  have hden : (0 : ℚ) < denominator (j - 149) := by exact_mod_cast denominator_pos (j - 149)
  have hhalf : (0 : ℚ) < 2 ^ ((j : ℤ) - 149 - 1) := by positivity
  rw [pow_sub_thirty]
  generalize numerator ((j : ℤ) - 149) = a at hfar herror
  generalize denominator ((j : ℤ) - 149) = b at hfar herror hden
  generalize (2 : ℚ) ^ ((j : ℤ) - 149 - 1) = half at hne herror hhalf ⊢
  have hne' : ((units * 10 ^ p : ℕ) : ℤ) * a ≠ (m : ℤ) * b := by
    intro heq
    rw [sub_eq_zero.2 heq, Int.cast_zero, zero_mul] at herror
    exact hne (sub_eq_zero.1 herror)
  obtain hexcepted | hscale := far_of_multiplesFar hfar (by exact_mod_cast hpos)
    (by exact_mod_cast hlt) hne'
  · left
    rw [Nat.cast_inj, excepted] at hexcepted
    split at hexcepted
    · next hj => exact ⟨by omega, hexcepted⟩
    · omega
  · right
    rw [herror, abs_mul, abs_of_pos (div_pos hhalf hden), ← Int.cast_abs]
    have hscale' : (b : ℚ) <
        2 ^ 29 * (|((units * 10 ^ p : ℕ) : ℤ) * a - (m : ℤ) * b| : ℤ) := by
      exact_mod_cast hscale
    calc half / 2 ^ 29 = b * (half / b) / 2 ^ 29 := by field_simp
      _ < 2 ^ 29 * (|((units * 10 ^ p : ℕ) : ℤ) * a - (m : ℤ) * b| : ℤ) * (half / b) / 2 ^ 29 := by
          gcongr
      _ = (|((units * 10 ^ p : ℕ) : ℤ) * a - (m : ℤ) * b| : ℤ) * (half / b) := by ring

end Grid

end PluginHost
