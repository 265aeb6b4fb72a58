/-
# Decimals read back

A number is written in full, with digits on either side of the point and without an exponent.  Such
a word is not an integer, because of the point, and the number that it writes is made of the digits
on both sides, as many places below one as there are digits behind the point
(`Pointed.scalar?_eq`).  For the shortest decimal of a number that is not zero this is the value of
the decimal (`scalar?_number`).
-/
import Mathlib.Data.Rat.Init
import PluginHost.Proofs.Number.Decimal
import PluginHost.Proofs.Toml.Word

namespace PluginHost.Toml

open Written

/-- Characters that are decimal digits. -/
def Digital (cs : List Char) : Prop := ∀ c ∈ cs, 48 ≤ c.toNat ∧ c.toNat ≤ 57

namespace Digital

variable {cs ds : List Char}

lemma append (h : Digital cs) (h' : Digital ds) : Digital (cs ++ ds) :=
  List.forall_mem_append.2 ⟨h, h'⟩

lemma zeros (n : ℕ) : Digital (List.replicate n '0') := by
  intro c hc
  obtain rfl := List.eq_of_mem_replicate hc
  decide

lemma toDigits (n : ℕ) : Digital (Nat.toDigits 10 n) := fun _ hc => toDigits_digit hc

lemma ne (h : Digital cs) {c d : Char} (hc : c ∈ cs) (hd : d.toNat < 48 ∨ 57 < d.toNat) : c ≠ d := by
  rintro rfl
  have := h c hc
  omega

end Digital

lemma digitsValue_append_zeros (cs : List Char) (n : ℕ) :
    digitsValue 10 (cs ++ List.replicate n '0') = digitsValue 10 cs * 10 ^ n := by
  induction n with
  | zero => simp
  | succ n ih =>
    have hzero : (hexValue? '0').getD 0 = 0 := by decide
    rw [List.replicate_succ', ← List.append_assoc, digitsValue, List.foldl_append,
      ← digitsValue, ih, List.foldl_cons, List.foldl_nil, hzero, pow_succ]
    ring

lemma digitsValue_zeros_append (n : ℕ) (cs : List Char) :
    digitsValue 10 (List.replicate n '0' ++ cs) = digitsValue 10 cs := by
  have hzeros : digitsValue 10 (List.replicate n '0') = 0 := by
    simpa [digitsValue] using digitsValue_append_zeros [] n
  rw [digitsValue, List.foldl_append, ← digitsValue, hzeros, digitsValue]

/-- Digits are those of a whole number, unless there is a zero in front of others. -/
lemma wholeDigits?_eq {ds : List Char} (hne : ds ≠ []) (hdigits : Digital ds)
    (hzero : ds.head? = some '0' → ds.length = 1) : wholeDigits? ds = some ds := by
  unfold wholeDigits?
  rw [digits?_eq (by decide) hne fun c hc => isDigitTo_digit (hdigits c hc)]
  split
  · next heq =>
    obtain rfl := Option.some.inj heq
    exact absurd (hzero rfl) (by simp)
  · rfl

/-- There are no other characters between digits than underscores. -/
lemma digits?_eq_none {isDigit : Char → Bool} {cs : List Char} {c : Char} (hc : c ∈ cs)
    (hdigit : isDigit c = false) (hseparator : c ≠ '_') : digits? isDigit cs = none := by
  have hne : ∀ {d}, isDigit d = true → c ≠ d := by
    rintro d hd rfl
    exact absurd hd (by simp [hdigit])
  fun_induction digits? isDigit cs with
  | case1 => exact absurd hc List.not_mem_nil
  | case2 d hd => exact absurd (List.mem_singleton.1 hc) (hne hd)
  | case3 => rfl
  | case4 d rest hd ih =>
    have hrest : c ∈ rest := by simpa [hne hd, hseparator] using hc
    rw [ih hrest, Option.map_none]
  | case5 => rfl
  | case6 d rest _ _ hd ih =>
    have hrest : c ∈ rest := by simpa [hne hd] using hc
    rw [ih hrest, Option.map_none]
  | case7 => rfl

/-! ## A point between digits -/

/-- Digits on either side of a point, with no zero in front of others. -/
structure Pointed (whole fraction : List Char) : Prop where
  /-- There are digits in front of the point. -/
  whole_ne : whole ≠ []
  /-- They are digits. -/
  whole_digital : Digital whole
  /-- There is no zero in front of them. -/
  whole_zero : whole.head? = some '0' → whole.length = 1
  /-- There are digits behind the point. -/
  fraction_ne : fraction ≠ []
  /-- They are digits. -/
  fraction_digital : Digital fraction

namespace Pointed

variable {whole fraction : List Char}

lemma ne (h : Pointed whole fraction) {c d : Char} (hc : c ∈ whole ++ '.' :: fraction)
    (hd : d.toNat < 46 ∨ 57 < d.toNat) : c ≠ d := by
  simp only [List.mem_append, List.mem_cons] at hc
  obtain hc | rfl | hc := hc
  · exact h.whole_digital.ne hc (by omega)
  · rintro rfl
    exact absurd hd (by decide)
  · exact h.fraction_digital.ne hc (by omega)

/-- The first character behind the sign is neither a sign nor a letter. -/
lemma splitSign_eq (h : Pointed whole fraction) (negative : Bool) :
    splitSign ((if negative then ['-'] else []) ++ (whole ++ '.' :: fraction)) =
      (negative, whole ++ '.' :: fraction) := by
  cases negative with
  | true => rfl
  | false =>
    rw [if_neg Bool.false_ne_true, List.nil_append]
    unfold splitSign
    split
    · next heq => exact absurd rfl (h.ne (c := '-') (by simp [heq]) (.inl (by decide)))
    · next heq => exact absurd rfl (h.ne (c := '+') (by simp [heq]) (.inl (by decide)))
    · rfl

/-- There is no letter in the word. -/
lemma ne_letter (h : Pointed whole fraction) (negative : Bool) {c : Char} (hc : 57 < c.toNat) :
    c ∉ (if negative then ['-'] else []) ++ (whole ++ '.' :: fraction) := by
  intro hmem
  obtain hmem | hmem := List.mem_append.1 hmem
  · cases negative with
    | true =>
      obtain rfl := List.mem_singleton.1 hmem
      exact absurd hc (by decide)
    | false => exact absurd hmem List.not_mem_nil
  · exact h.ne hmem (.inr hc) rfl

/-- The word is not an integer. -/
lemma integer?_eq (h : Pointed whole fraction) (negative : Bool) :
    integer? ((if negative then ['-'] else []) ++ (whole ++ '.' :: fraction)) = none := by
  have hdigits : wholeDigits? (whole ++ '.' :: fraction) = none := by
    unfold wholeDigits?
    rw [digits?_eq_none (c := '.') (by simp) (by decide) (by decide)]
  have hsign := h.splitSign_eq negative
  have hletter := fun {c} => h.ne_letter negative (c := c)
  unfold integer?
  split
  · next heq => exact absurd (by simp [heq]) (hletter (c := 'x') (by decide))
  · next heq => exact absurd (by simp [heq]) (hletter (c := 'o') (by decide))
  · next heq => exact absurd (by simp [heq]) (hletter (c := 'b') (by decide))
  · simp only [hsign, hdigits, Option.map_none]

/-- Without its sign the word is read as the digits around the point. -/
lemma magnitude?_eq (h : Pointed whole fraction) (negative : Bool) :
    magnitude? negative (whole ++ '.' :: fraction) =
      some (finite? negative (digitsValue 10 (whole ++ fraction)) (-fraction.length)) := by
  have hletter := fun {c} => h.ne_letter false (c := c)
  have hmark : ∀ c ∈ whole ++ '.' :: fraction, (!decide (c = 'e' ∨ c = 'E')) = true := by
    intro c hc
    simp [h.ne hc (.inr (show 57 < 'e'.toNat by decide)),
      h.ne hc (.inr (show 57 < 'E'.toNat by decide))]
  have hinf : whole ++ '.' :: fraction ≠ ['i', 'n', 'f'] :=
    fun heq => hletter (c := 'n') (by decide) (by simp [heq])
  have hnan : whole ++ '.' :: fraction ≠ ['n', 'a', 'n'] :=
    fun heq => hletter (c := 'n') (by decide) (by simp [heq])
  have hbefore : ∀ c ∈ whole, decide (c ≠ '.') = true := by
    intro c hc
    simpa using h.whole_digital.ne hc (.inl (by decide))
  rw [magnitude?, if_neg hinf, if_neg hnan]
  simp only [List.takeWhile_eq_self_iff.2 hmark, List.dropWhile_eq_nil_iff.2 hmark,
    List.takeWhile_append_of_pos hbefore, List.dropWhile_append_of_pos hbefore]
  have hwhole := wholeDigits?_eq h.whole_ne h.whole_digital h.whole_zero
  have hfraction : digits? (isDigitTo 10) fraction = some fraction :=
    digits?_eq (by decide) h.fraction_ne fun c hc => isDigitTo_digit (h.fraction_digital c hc)
  simp [hwhole, hfraction]

/-- The word is a number, with or without a sign. -/
theorem scalar?_eq (h : Pointed whole fraction) (negative : Bool) :
    scalar? ((if negative then ['-'] else []) ++ (whole ++ '.' :: fraction)) =
      some (.float (finite? negative (digitsValue 10 (whole ++ fraction)) (-fraction.length))) := by
  have hletter := fun {c} => h.ne_letter negative (c := c)
  have htrue : (if negative then ['-'] else []) ++ (whole ++ '.' :: fraction) ≠
      ['t', 'r', 'u', 'e'] := fun heq => hletter (c := 'e') (by decide) (by simp [heq])
  have hfalse : (if negative then ['-'] else []) ++ (whole ++ '.' :: fraction) ≠
      ['f', 'a', 'l', 's', 'e'] := fun heq => hletter (c := 'e') (by decide) (by simp [heq])
  rw [scalar?, if_neg htrue, if_neg hfalse, h.integer?_eq negative]
  simp only [float?, h.splitSign_eq negative, h.magnitude?_eq negative]

end Pointed

/-! ## Decimals in full -/

section Decimal

variable {digits : List Char}

/-- Zeros behind the digits of a number that has no digits behind the point. -/
lemma pointed_zeros (hne : digits ≠ []) (hdigits : Digital digits)
    (hzero : digits.head? ≠ some '0') (n : ℕ) :
    Pointed (digits ++ List.replicate n '0') ['0'] where
  whole_ne := by simp [hne]
  whole_digital := hdigits.append (.zeros n)
  whole_zero h := absurd (List.head?_append_of_ne_nil _ hne ▸ h) hzero
  fraction_ne := by simp
  fraction_digital := .zeros 1

/-- Zeros in front of the digits of a number that does not reach up to the point. -/
lemma pointed_padded (hdigits : Digital digits) (hzero : digits.head? ≠ some '0') {n : ℕ}
    (hn : 0 < n) {padded : List Char}
    (hpadded : padded = List.replicate (n + 1 - digits.length) '0' ++ digits) :
    Pointed (padded.take (padded.length - n)) (padded.drop (padded.length - n)) := by
  have hlength : padded.length = n + 1 - digits.length + digits.length := by simp [hpadded]
  have hdigital : Digital padded := hpadded ▸ (Digital.zeros _).append hdigits
  refine ⟨?_, fun c hc => hdigital c (List.mem_of_mem_take hc), fun hhead => ?_, ?_,
    fun c hc => hdigital c (List.mem_of_mem_drop hc)⟩
  · rw [ne_eq, List.take_eq_nil_iff, ← List.length_eq_zero_iff]
    omega
  · rw [List.head?_take, if_neg (by omega)] at hhead
    by_cases hfit : n + 1 ≤ digits.length
    · -- nothing was put in front
      rw [hpadded, Nat.sub_eq_zero_of_le hfit, List.replicate_zero, List.nil_append] at hhead
      exact absurd hhead hzero
    · rw [List.length_take]
      omega
  · rw [ne_eq, List.drop_eq_nil_iff]
    omega

/-- A decimal is written as digits around a point, and these have its value. -/
lemma exists_pointed {d : Shortest.Decimal} (hpos : 0 < d.units) : ∃ whole fraction,
    Pointed whole fraction ∧ decimal d = whole ++ '.' :: fraction ∧
      (digitsValue 10 (whole ++ fraction) * 10 ^ (-fraction.length : ℤ) : ℚ) =
        d.units * 10 ^ d.place := by
  have hzero : (Nat.toDigits 10 d.units).head? ≠ some '0' :=
    fun hzero => hpos.ne' (head?_toDigits hzero)
  have hdigits := Digital.toDigits d.units
  have hvalue := digitsValue_toDigits d.units
  have hne : Nat.toDigits 10 d.units ≠ [] := Nat.toDigits_ne_nil
  unfold decimal
  generalize Nat.toDigits 10 d.units = digits at *
  by_cases hplace : 0 ≤ d.place
  · obtain ⟨n, hn⟩ : ∃ n : ℕ, d.place = n := ⟨d.place.toNat, by omega⟩
    refine ⟨_, _, pointed_zeros hne hdigits hzero n, by simp [hn], ?_⟩
    have hone : ['0'] = List.replicate 1 '0' := rfl
    rw [hone, digitsValue_append_zeros, digitsValue_append_zeros, hvalue, hn]
    simp
  · obtain ⟨n, hn⟩ : ∃ n : ℕ, d.place = -n := ⟨(-d.place).toNat, by omega⟩
    refine ⟨_, _, pointed_padded hdigits hzero (n := n) (by omega) rfl, ?_, ?_⟩
    · rw [if_neg hplace]
      simp only [hn, neg_neg, Int.toNat_natCast, List.append_assoc, List.singleton_append]
    · rw [List.take_append_drop, digitsValue_zeros_append, hvalue, hn, List.length_drop]
      congr 3
      simp
      omega

end Decimal

/-- The characters of a number that is neither zero nor infinite are those of a number with the
value of the shortest decimal. -/
theorem scalar?_number {x : Binary32} (hpos : 0 < x.rank)
    (hfinite : x.rank < Format.single.infinity) : ∃ c k,
    scalar? (number x) = some (.float (finite? x.isNegative c k)) ∧
      (c * 10 ^ k : ℚ) = (Shortest.ofRank .single x.rank).units *
        10 ^ (Shortest.ofRank .single x.rank).place := by
  obtain ⟨whole, fraction, hpointed, hdecimal, hvalue⟩ :=
    exists_pointed (Shortest.units_pos Format.regular_single hpos hfinite)
  have hnumber : number x = (if x.isNegative then ['-'] else []) ++ (whole ++ '.' :: fraction) := by
    have hnan : x.isNaN = false := by simp [Binary32.isNaN, hfinite.le]
    rw [number, hnan, if_neg Bool.false_ne_true, if_neg hfinite.ne, if_neg hpos.ne', hdecimal]
  exact ⟨_, _, hnumber ▸ hpointed.scalar?_eq x.isNegative, hvalue⟩

end PluginHost.Toml
