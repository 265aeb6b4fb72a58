/-
# Rounding twice

The numbers of sixty-four bits contain those of thirty-two bits and the midpoints between these.  So
a number that is rounded to sixty-four bits first and to thirty-two bits then goes where it would
have gone directly, unless the first step takes it to a midpoint that it did not lie on
(`Format.Rounds.through`).

The shortest decimal of a number is not much farther from it than half of the gap, so that it lies
on a grid of which the midpoints keep their distance (`Grid.far_from_midpoint`).  It is therefore
not taken to a midpoint, with the exception of one magnitude, which is `Format.astray`
(`Format.Rounds.narrow`).
-/
import PluginHost.Proofs.Number.Decimal
import PluginHost.Proofs.Number.NearMiss

namespace PluginHost

namespace Format

/-! ## What lies between -/

section Between

variable {fmt : Format} {v : ℚ} {rank : ℕ}

/-- A midpoint is an odd number of halves of a gap. -/
lemma midpoint_eq_mul (rank : ℕ) :
    fmt.midpoint rank = (2 * fmt.significand rank + 1 : ℕ) * 2 ^ (fmt.power rank - 1) := by
  rw [midpoint, value, gap, zpow_sub_one₀ (by norm_num)]
  push_cast
  ring

lemma gap_mono : Monotone fmt.gap :=
  monotone_nat_of_le_succ fun rank => by
    have := fmt.gap_pos rank
    obtain h | h := fmt.gap_succ rank
    · exact h.ge
    · linarith

/-- A midpoint is half of the gap away from the ranks next to it. -/
lemma abs_midpoint_sub_value {other : ℕ} (h : rank = other ∨ rank = other + 1) :
    |fmt.midpoint other - fmt.value rank| = fmt.gap other / 2 := by
  have hpos : 0 < fmt.gap other / 2 := half_pos (fmt.gap_pos other)
  obtain rfl | rfl := h
  · rw [midpoint, add_sub_cancel_left, abs_of_pos hpos]
  · rw [midpoint, value_succ, add_sub_add_left_eq_sub, abs_sub_comm, sub_half, abs_of_pos hpos]

/-- A number is not farther than half of the gap from the rank that it is rounded to. -/
lemma Rounds.near (h : fmt.Rounds v rank) (hv : 0 ≤ v) :
    |v - fmt.value rank| ≤ fmt.gap rank / 2 := by
  have hbelow : fmt.value rank - fmt.gap rank / 2 ≤ v := by
    cases rank with
    | zero =>
      have := fmt.gap_pos 0
      rw [value_zero]
      linarith
    | succ rank =>
      have hmid := h.midpoint_le (Nat.lt_succ_self rank)
      have hgap : fmt.gap rank ≤ fmt.gap (rank + 1) := gap_mono (Nat.le_succ rank)
      rw [midpoint] at hmid
      rw [value_succ]
      linarith
  have habove := h.le_midpoint le_rfl
  rw [midpoint] at habove
  exact abs_le.2 ⟨by linarith, by linarith⟩

/-- The gap is the smallest one there is, or the value is large in comparison. -/
lemma gap_le_value (rank : ℕ) :
    fmt.gap rank = 2 ^ fmt.lowest ∨ 2 ^ fmt.fraction * fmt.gap rank ≤ fmt.value rank := by
  obtain ⟨k, N, hN, hk, rfl⟩ := fmt.exists_parts rank
  obtain rfl | hP := hk
  · left
    rw [gap, power_parts (.inl rfl) hN, Nat.cast_zero, add_zero]
  · right
    have := fmt.gap_pos (k * 2 ^ fmt.fraction + N)
    have hP' : (2 ^ fmt.fraction : ℚ) ≤ N := by exact_mod_cast hP
    rw [value, significand_parts (.inr hP) hN]
    gcongr

end Between

/-! ## Through a finer format -/

/-- A number that is rounded to a finer format in between goes where it would have gone, unless it
is taken to a midpoint on which it did not lie. -/
lemma Rounds.through {coarse fine : Format} {v : ℚ} {rank y : ℕ}
    (hfine : ∀ other, ∃ z, fine.value z = coarse.midpoint other) (h : coarse.Rounds v rank)
    (hy : fine.Rounds v y)
    (hmid : ∀ other, rank = other ∨ rank = other + 1 → fine.value y = coarse.midpoint other →
      v = fine.value y ∨ Even rank) :
    coarse.Rounds (fine.value y) rank := by
  constructor
  · rintro below rfl
    obtain ⟨z, hz⟩ := hfine below
    have hle : coarse.midpoint below ≤ fine.value y := by
      rw [← hz]
      refine value_strictMono.monotone ((fine.rounds_value z).mono hy ?_)
      rw [hz]
      exact h.midpoint_le (Nat.lt_succ_self below)
    refine hle.lt_or_eq.imp_right fun heq => ⟨heq, ?_⟩
    obtain hv | heven := hmid below (.inr rfl) heq.symm
    · obtain hlt | ⟨-, heven⟩ := h.above below rfl
      · exact absurd (heq.trans hv.symm) hlt.ne
      · exact heven
    · exact heven
  · obtain ⟨z, hz⟩ := hfine rank
    have hle : fine.value y ≤ coarse.midpoint rank := by
      rw [← hz]
      refine value_strictMono.monotone (hy.le_of_le_value ?_)
      rw [hz]
      exact h.le_midpoint le_rfl
    refine hle.lt_or_eq.imp_right fun heq => ⟨heq, ?_⟩
    obtain hv | heven := hmid rank (.inl rfl) heq
    · obtain hlt | ⟨-, heven⟩ := h.below
      · exact absurd (hv.trans heq) hlt.ne
      · exact heven
    · exact heven

/-- A rank is converted to the rank that its value is rounded to. -/
lemma convert_eq {fmt target : Format} {rank y : ℕ} (hfraction : 0 < target.fraction)
    (h : target.Rounds (fmt.value rank) y) : fmt.convert target rank = min target.infinity y := by
  rw [value_eq_div] at h
  exact round_eq hfraction (Nat.two_pow_pos _) h

/-! ## Thirty-two and sixty-four bits -/

lemma lowest_single : single.lowest = -149 := by decide

lemma lowest_double : double.lowest = -1074 := by decide

lemma infinity_single : single.infinity = 255 * 2 ^ 23 := by decide

section Single

variable {rank y : ℕ}

/-- The smallest gap of thirty-two bits is doubled so many times. -/
lemma exists_power_single (rank : ℕ) : ∃ j : ℕ, single.power rank = j - 149 :=
  ⟨rank / Nat.pow 2 single.fraction - 1, by rw [power, lowest_single]; omega⟩

lemma power_single_lt (hfinite : rank < single.infinity) : single.power rank < 105 := by
  have hquotient : rank / 2 ^ 23 < 255 := by
    rw [Nat.div_lt_iff_lt_mul (by norm_num), ← infinity_single]
    exact hfinite
  have hpower : single.power rank = -149 + ((rank / 2 ^ 23 - 1 : ℕ) : ℤ) := by
    rw [power, lowest_single]
    rfl
  omega

lemma significand_single_lt (rank : ℕ) : single.significand rank < 2 ^ 24 := significand_lt rank

/-- A number of units that is not too large, where units are powers of two within reach, is a number
of sixty-four bits. -/
lemma exists_double {N : ℕ} (hN : N < 2 ^ 25) {e : ℤ} (he : -150 ≤ e) :
    ∃ z, double.value z = N * 2 ^ e := by
  obtain ⟨z, hz⟩ : ∃ z, double.value z = N * 2 ^ (double.lowest + ((e + 1074).toNat : ℤ)) :=
    exists_value_eq _ (hN.le.trans (show 2 ^ 25 ≤ 2 * 2 ^ 52 by norm_num))
  refine ⟨z, hz.trans ?_⟩
  rw [lowest_double]
  congr 2
  omega

lemma exists_double_midpoint (rank : ℕ) : ∃ z, double.value z = single.midpoint rank := by
  obtain ⟨j, hj⟩ := exists_power_single rank
  have hlt := significand_single_lt rank
  rw [midpoint_eq_mul]
  exact exists_double (by omega) (by omega)

lemma exists_double_value (rank : ℕ) : ∃ z, double.value z = single.value rank := by
  obtain ⟨j, hj⟩ := exists_power_single rank
  have hlt := significand_single_lt rank
  exact exists_double (by omega) (by omega)

/-- The finite numbers of thirty-two bits lie far below infinity of sixty-four bits. -/
lemma lt_infinity_double (hrank : rank ≤ single.infinity) (hle : double.value y ≤ single.value rank) :
    y < double.infinity := by
  have hsingle : single.value single.infinity = 2 ^ 2 ^ 7 := value_infinity (by decide)
  have hdouble : double.value double.infinity = 2 ^ 2 ^ 10 := value_infinity (by decide)
  have hmono : StrictMono double.value := value_strictMono
  rw [← hmono.lt_iff_lt, hdouble]
  calc double.value y ≤ single.value rank := hle
    _ ≤ single.value single.infinity := value_strictMono.monotone hrank
    _ = 2 ^ 2 ^ 7 := hsingle
    _ < 2 ^ 2 ^ 10 := pow_lt_pow_right₀ (by norm_num) (by norm_num)

/-- Numbers of sixty-four bits are close to each other near a midpoint of thirty-two bits. -/
lemma gap_double_le (hvalue : double.value y = single.midpoint rank) :
    double.gap y ≤ 2 ^ (single.power rank - 29) := by
  obtain ⟨j, hj⟩ := exists_power_single rank
  obtain hlowest | hlarge := double.gap_le_value y
  · rw [hlowest, lowest_double]
    exact zpow_le_zpow_right₀ (by norm_num) (by omega)
  · have hmid : single.midpoint rank < 2 ^ (single.power rank + 24) := by
      have hlt : ((2 * single.significand rank + 1 : ℕ) : ℚ) < (2 ^ 25 : ℕ) := by
        have := significand_single_lt rank
        exact_mod_cast (show 2 * single.significand rank + 1 < 2 ^ 25 by omega)
      have hsplit : (2 : ℚ) ^ (single.power rank + 24) =
          (2 ^ 25 : ℕ) * 2 ^ (single.power rank - 1) := by
        rw [Nat.cast_pow, ← zpow_natCast, Nat.cast_ofNat, ← zpow_add₀ (by norm_num)]
        congr 1
        push_cast
        ring
      rw [midpoint_eq_mul, hsplit]
      gcongr
    have hlt : (2 : ℚ) ^ (52 + double.power y) < 2 ^ (single.power rank + 24) := by
      refine lt_of_le_of_lt ?_ hmid
      rw [← hvalue, zpow_add₀ (by norm_num)]
      exact_mod_cast hlarge
    have hpower := (zpow_lt_zpow_iff_right₀ (by norm_num)).1 hlt
    exact zpow_le_zpow_right₀ (by norm_num) (by omega)

end Single

/-- The magnitude of thirty-two bits whose shortest decimal is taken to the midpoint behind it. -/
def astray : ℕ := 363742205

/-- The rank with the same significand and twice the gap has the same decimal for its midpoint. -/
def astrayTwin : ℕ := astray + 2 ^ 23

/-- A rank whose significand is that of the excepted midpoint. -/
lemma eq_astray {rank : ℕ} (hpower : single.power rank = -107 ∨ single.power rank = -106)
    (hsignificand : 2 * single.significand rank + 1 = 22841339) :
    rank = astray ∨ rank = astrayTwin := by
  obtain ⟨k, N, hN, hk, rfl⟩ := single.exists_parts rank
  rw [power_parts hk hN, lowest_single] at hpower
  rw [significand_parts hk hN] at hsignificand
  obtain rfl : N = 11420669 := by omega
  refine hpower.imp (fun h => ?_) fun h => ?_
  · obtain rfl : k = 42 := by omega
    rfl
  · obtain rfl : k = 43 := by omega
    rfl

/-- A decimal that is rounded to a rank, and that is not farther from it than one unit, is rounded
to the same rank if it is rounded to sixty-four bits first; there are two ranks for which this is
not said. -/
theorem Rounds.narrow {units rank y : ℕ} {k : ℤ} (hfinite : rank < single.infinity)
    (h : single.Rounds (units * 10 ^ k) rank)
    (hnear : |(units * 10 ^ k - single.value rank : ℚ)| ≤ 10 ^ k)
    (hy : double.Rounds (units * 10 ^ k) y) (hastray : rank ≠ astray) (htwin : rank ≠ astrayTwin) :
    single.Rounds (double.value y) rank := by
  refine h.through exists_double_midpoint hy fun other hother heq => ?_
  rw [or_iff_not_imp_right, Nat.not_even_iff_odd]
  intro hodd
  by_contra hne
  rw [heq] at hne
  have hv : (0 : ℚ) ≤ units * 10 ^ k := by positivity
  have herror : |(units * 10 ^ k - single.midpoint other : ℚ)| ≤ 2 ^ (single.power other - 30) := by
    have hsplit : (2 : ℚ) ^ (single.power other - 30) = 2 ^ (single.power other - 29) / 2 := by
      rw [div_eq_mul_inv, ← zpow_sub_one₀ (by norm_num)]
      congr 1
      ring
    have := hy.near hv
    have := gap_double_le heq
    rw [← heq, hsplit]
    linarith
  have hcoarse : (2 ^ (single.power other - 1) - 2 ^ (single.power other - 30) : ℚ) ≤ 10 ^ k := by
    have hhalf : |single.midpoint other - single.value rank| = 2 ^ (single.power other - 1) := by
      rw [abs_midpoint_sub_value hother, gap, zpow_sub_one₀ (by norm_num), div_eq_mul_inv]
    have := abs_sub_le (single.midpoint other) (units * 10 ^ k) (single.value rank)
    rw [abs_sub_comm (single.midpoint other) (units * 10 ^ k)] at this
    linarith
  have hlt := significand_single_lt other
  obtain ⟨j, hj⟩ := exists_power_single other
  rw [midpoint_eq_mul] at hne herror
  obtain ⟨hpower, hsignificand⟩ | hfar := Grid.far_from_midpoint (by omega)
    (power_single_lt (by omega)) (Nat.succ_pos _) (by omega) hcoarse hne
  · -- the excepted midpoint lies behind an odd rank
    obtain rfl | rfl := hother
    · obtain heq | heq := eq_astray hpower hsignificand
      · exact hastray heq
      · exact htwin heq
    · have hodd' : Odd other := by
        obtain rfl | rfl := eq_astray hpower hsignificand
        · decide
        · decide
      exact Nat.not_even_iff_odd.2 hodd hodd'.add_one
  · exact absurd herror (not_le.2 hfar)

end Format

end PluginHost
