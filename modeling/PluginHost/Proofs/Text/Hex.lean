/-
# Reading pairs of digits

A text of digits, two for each octet, can be read, and what is read is written as the same text
in lower case (`Hex.decode_of_writes`).  Any other text is refused, with the first reason there is
(`Hex.decode_cases`).
-/
import PluginHost.Proofs.Text.Utf8
import PluginHost.Text.Hex
import PluginHost.Text.Scan

namespace PluginHost

namespace Hex

/-- A text writes octets: it has digits only, of either case, and an even number of them. -/
def Writes (t : String) : Prop :=
  t.toList.length % 2 = 0 ∧ ∀ c ∈ t.toList, (hexValue? c).isSome = true

instance (t : String) : Decidable (Writes t) :=
  @instDecidableAnd _ _ (Nat.decEq _ _) (List.decidableBAll _ _)

/-- A text in lower case. -/
def lower (t : String) : String := String.ofList (t.toList.map Char.toLower)

/-! ## One digit -/

variable {c : Char} {n : Nat}

lemma value_lt (hvalue : hexValue? c = some n) : n < 16 ∧ c.toNat < 0x80 := by
  unfold hexValue? at hvalue
  dsimp only at hvalue
  split_ifs at hvalue with hnumeral hupper hlower
  all_goals
    cases hvalue
    constructor <;> omega

/-- As an octet, a digit has the value that it has as a character. -/
lemma value?_octet (hvalue : hexValue? c = some n) : value? (Utf8.octet c.toNat) = some n := by
  have hlt := (value_lt hvalue).2
  rw [value?, Utf8.toNat_octet (by omega)]
  exact hvalue

lemma digit_eq_toLower (hvalue : hexValue? c = some n) : digit n = c.toLower := by
  -- there are few digits, so all of them are tried
  have hdigits : ∀ m < 0x80, ∀ k < 16, hexValue? (Char.ofNat m) = some k →
      digit k = (Char.ofNat m).toLower := by decide +kernel
  obtain ⟨hn, hc⟩ := value_lt hvalue
  have hdigit := hdigits c.toNat hc n hn
  rw [Char.ofNat_toNat] at hdigit
  exact hdigit hvalue

lemma pair_octet {high low : Nat} (hhigh : high < 16) (hlow : low < 16) :
    pair (Utf8.octet (high * 16 + low)) = [digit high, digit low] := by
  rw [pair, Utf8.toNat_octet (by omega), show (high * 16 + low) / 16 = high by omega,
    show (high * 16 + low) % 16 = low by omega]

/-! ## Texts of digits -/

lemma encodeChars_digits {cs : List Char} (hdigits : ∀ c ∈ cs, (hexValue? c).isSome = true) :
    Utf8.encodeChars cs = cs.map fun c => Utf8.octet c.toNat := by
  induction cs with
  | nil => rfl
  | cons c cs ih =>
    obtain ⟨n, hvalue⟩ := Option.isSome_iff_exists.1 (hdigits c List.mem_cons_self)
    rw [Utf8.encodeChars, List.flatMap_cons, List.map_cons, Utf8.encodeCode,
      if_pos (value_lt hvalue).2, List.singleton_append]
    exact congrArg _ (ih fun c' hc' => hdigits c' (List.mem_cons_of_mem _ hc'))

lemma decodePairs_digits (place : Nat) : ∀ cs : List Char, cs.length % 2 = 0 →
    (∀ c ∈ cs, (hexValue? c).isSome = true) →
    ∃ bytes, decodePairs place (cs.map fun c => Utf8.octet c.toNat) = .ok bytes ∧
      bytes.flatMap pair = cs.map Char.toLower
  | [], _, _ => ⟨[], rfl, rfl⟩
  | [_], hlength, _ => by simp at hlength
  | a :: b :: cs, hlength, hdigits => by
    obtain ⟨high, hhigh⟩ := Option.isSome_iff_exists.1 (hdigits a (by simp))
    obtain ⟨low, hlow⟩ := Option.isSome_iff_exists.1 (hdigits b (by simp))
    have hlength' : cs.length % 2 = 0 := by
      simp only [List.length_cons] at hlength
      omega
    obtain ⟨bytes, hbytes, hpairs⟩ := decodePairs_digits (place + 2) cs hlength'
      fun c hc => hdigits c (by simp [hc])
    refine ⟨Utf8.octet (high * 16 + low) :: bytes, ?_, ?_⟩
    · simp only [List.map_cons, decodePairs, value?_octet hhigh, value?_octet hlow, hbytes]
      rfl
    · rw [List.flatMap_cons, pair_octet (value_lt hhigh).1 (value_lt hlow).1, hpairs,
        digit_eq_toLower hhigh, digit_eq_toLower hlow]
      rfl

/-- **Digits are read as octets that are written with these digits**, in lower case. -/
theorem decode_of_writes {t : String} (ht : Writes t) :
    ∃ bytes, decode t = .ok bytes ∧ encode bytes = lower t := by
  obtain ⟨bytes, hbytes, hpairs⟩ := decodePairs_digits 0 t.toList ht.1 ht.2
  have hoctets : Utf8.encode t = t.toList.map fun c => Utf8.octet c.toNat :=
    encodeChars_digits ht.2
  refine ⟨bytes, ?_, by rw [encode, hpairs, lower]⟩
  have hodd : ¬ t.toList.length % 2 = 1 := by
    rw [ht.1]
    exact Nat.zero_ne_one
  rw [decode, hoctets, List.length_map, if_neg hodd, hbytes]

/-! ## Texts that are no digits -/

/-- A digit to the base sixteen, of either case. -/
def IsDigit (c : Char) : Prop :=
  '0' ≤ c ∧ c ≤ '9' ∨ 'A' ≤ c ∧ c ≤ 'F' ∨ 'a' ≤ c ∧ c ≤ 'f'

lemma isSome_hexValue?_iff : (hexValue? c).isSome = true ↔ IsDigit c := by
  have hle : ∀ a b : Char, a ≤ b ↔ a.toNat ≤ b.toNat := fun _ _ => Iff.rfl
  simp only [IsDigit, hle, Char.reduceToNat]
  unfold hexValue?
  dsimp only
  split_ifs <;> simp <;> omega

/-- What is wrong with octets that are to be read as digits, two at a time. -/
inductive Faulty (octets : Bytes) : Error → Prop
  /-- Their number is odd, whatever they are. -/
  | odd (hodd : octets.length % 2 = 1) : Faulty octets .oddLength
  /-- Their number is even, and this is the first one that is no digit. -/
  | strange {front rear : Bytes} {octet : UInt8} (heven : octets.length % 2 = 0)
      (hsplit : octets = front ++ octet :: rear) (hfront : ∀ b ∈ front, (value? b).isSome = true)
      (hoctet : value? octet = none) : Faulty octets (.notADigit octet front.length)

/-- Pairs of octets are read if all of them are digits, and else up to the first one that is
none. -/
lemma decodePairs_cases (place : ℕ) : ∀ octets : Bytes, octets.length % 2 = 0 →
    (∀ b ∈ octets, (value? b).isSome = true) ∨
    ∃ front octet rear, octets = front ++ octet :: rear ∧
      (∀ b ∈ front, (value? b).isSome = true) ∧ value? octet = none ∧
      decodePairs place octets = .error (.notADigit octet (place + front.length))
  | [], _ => .inl nofun
  | [_], hlength => by simp at hlength
  | a :: b :: rest, hlength => by
    rcases ha : value? a with _ | high
    · exact .inr ⟨[], a, b :: rest, rfl, nofun, ha, by simp [decodePairs, ha]⟩
    rcases hb : value? b with _ | low
    · exact .inr ⟨[a], b, rest, rfl, by simp [ha], hb, by simp [decodePairs, ha, hb]⟩
    have hlength' : rest.length % 2 = 0 := by
      simp only [List.length_cons] at hlength
      omega
    rcases decodePairs_cases (place + 2) rest hlength' with hrest |
      ⟨front, octet, rear, rfl, hfront, hoctet, herror⟩
    · exact .inl (by simpa [ha, hb] using hrest)
    · refine .inr ⟨a :: b :: front, octet, rear, rfl, by simpa [ha, hb] using hfront, hoctet, ?_⟩
      simp only [decodePairs, ha, hb, herror, List.length_cons]
      rw [show place + (front.length + 1 + 1) = place + 2 + front.length by omega]
      rfl

/-- Where the octets of characters are all of them digits, so are the characters. -/
lemma digits_of_encodeChars {cs : List Char}
    (hoctets : ∀ b ∈ Utf8.encodeChars cs, (value? b).isSome = true) :
    ∀ c ∈ cs, (hexValue? c).isSome = true := by
  have hlarge : ∀ {n : ℕ}, 0x80 ≤ n → n < 256 → ¬ (value? (Utf8.octet n)).isSome = true := by
    intro n hlow hhigh hsome
    obtain ⟨m, hm⟩ := Option.isSome_iff_exists.1 hsome
    unfold value? at hm
    rw [Utf8.toNat_octet hhigh] at hm
    dsimp only at hm
    split_ifs at hm <;> omega
  intro c hc
  have hvalid := Utf8.toNat_valid c
  have hall : ∀ b ∈ Utf8.encodeCode c.toNat, (value? b).isSome = true := fun b hb =>
    hoctets b (List.mem_flatMap.2 ⟨c, hc, hb⟩)
  unfold Utf8.encodeCode at hall
  -- the first octet of any other character is no digit
  split_ifs at hall with hone htwo hthree
  · have hvalue := hall _ (List.mem_singleton_self _)
    rw [value?, Utf8.toNat_octet (by omega)] at hvalue
    exact hvalue
  · exact absurd (hall _ List.mem_cons_self) (hlarge (by omega) (by omega))
  · exact absurd (hall _ List.mem_cons_self) (hlarge (by omega) (by omega))
  · exact absurd (hall _ List.mem_cons_self) (hlarge (by omega) (by omega))

lemma length_encode_of_digits {t : String} (hdigits : ∀ c ∈ t.toList, (hexValue? c).isSome = true) :
    (Utf8.encode t).length = t.toList.length := by
  rw [Utf8.encode, encodeChars_digits hdigits, List.length_map]

/-- A text that writes octets is even in length, however its length is counted. -/
lemma writes_iff {t : String} :
    Writes t ↔ t.utf8ByteSize % 2 = 0 ∧ ∀ c ∈ t.toList, IsDigit c := by
  simp only [← isSome_hexValue?_iff, ← Utf8.size_eq, Utf8.size]
  constructor
  · rintro ⟨heven, hdigits⟩
    exact ⟨by rwa [length_encode_of_digits hdigits], hdigits⟩
  · rintro ⟨heven, hdigits⟩
    exact ⟨by rwa [length_encode_of_digits hdigits] at heven, hdigits⟩

/-- **A text is read if it writes octets, and refused for the first reason there is.** -/
theorem decode_cases (t : String) :
    (Writes t ∧ ∃ bytes, decode t = .ok bytes ∧ encode bytes = lower t) ∨
    (¬ Writes t ∧ ∃ error, decode t = .error error ∧ Faulty (Utf8.encode t) error) := by
  by_cases hwrites : Writes t
  · exact .inl ⟨hwrites, decode_of_writes hwrites⟩
  refine .inr ⟨hwrites, ?_⟩
  rcases Nat.mod_two_eq_zero_or_one (Utf8.encode t).length with heven | hodd
  · rcases decodePairs_cases 0 _ heven with hdigits |
      ⟨front, octet, rear, hsplit, hfront, hoctet, herror⟩
    · have hdigits' := digits_of_encodeChars hdigits
      exact absurd ⟨by rwa [length_encode_of_digits hdigits'] at heven, hdigits'⟩ hwrites
    · refine ⟨_, ?_, .strange heven hsplit hfront hoctet⟩
      rw [decode, if_neg (by omega), herror, Nat.zero_add]
  · exact ⟨_, by rw [decode, if_pos hodd], .odd hodd⟩

/-! ## Written octets -/

/-- No octet is written with a NUL. -/
lemma cut_encode (bytes : Bytes) : Terminated.cut (encode bytes) = encode bytes := by
  refine Terminated.cut_eq_self ?_
  have hdigits : ∀ n < 16, digit n ≠ '\x00' := by decide
  rw [encode, String.toList_ofList, List.mem_flatMap]
  rintro ⟨b, -, hb⟩
  have hlt := b.toNat_lt_size
  simp only [pair, List.mem_cons, List.not_mem_nil, or_false] at hb
  rcases hb with hb | hb
  · exact hdigits (b.toNat / 16) (by simp only [UInt8.size] at hlt; omega) hb.symm
  · exact hdigits (b.toNat % 16) (by omega) hb.symm

lemma pair_injective {a b : UInt8} (hpair : pair a = pair b) : a = b := by
  have hdigits : ∀ m < 16, ∀ n < 16, digit m = digit n → m = n := by decide
  have ha := a.toNat_lt_size
  have hb := b.toNat_lt_size
  simp only [UInt8.size] at ha hb
  simp only [pair, List.cons.injEq, and_true] at hpair
  have hhigh := hdigits _ (by omega) _ (by omega) hpair.1
  have hlow := hdigits _ (by omega) _ (by omega) hpair.2
  refine UInt8.toNat_inj.1 ?_
  omega

/-- Octets can be told from their digits. -/
theorem encode_injective {bytes bytes' : Bytes} (hencode : encode bytes = encode bytes') :
    bytes = bytes' := by
  replace hencode : bytes.flatMap pair = bytes'.flatMap pair := String.ofList_injective hencode
  induction bytes generalizing bytes' with
  | nil => cases bytes' with
    | nil => rfl
    | cons b' bytes' => cases hencode
  | cons b bytes ih => cases bytes' with
    | nil => cases hencode
    | cons b' bytes' =>
      rw [List.flatMap_cons, List.flatMap_cons] at hencode
      obtain ⟨hpair, hrest⟩ := List.append_inj hencode rfl
      rw [pair_injective hpair, ih hrest]

end Hex

end PluginHost
