/-
# What repairing does to octets

Octets that come from outside are cut into pieces: the octets of a character, or one to three octets
that are the beginning of none and are read as U+FFFD (`Utf8.Pieced`).  The character that stands
for a broken piece has three octets, so the text is never shorter than what was read, and at most
three times as long (`Utf8.length_le_size_repair`, `Utf8.size_repair_le`).
-/
import PluginHost.Proofs.Text.Utf8

namespace PluginHost

namespace Utf8

/-- The octets are read as the characters, piece by piece. -/
inductive Pieced : Bytes → List Char → Prop
  /-- There is nothing to read. -/
  | nil : Pieced [] []
  /-- The octets of a character are read as this character. -/
  | character (c : Char) {rest : Bytes} {cs : List Char} (hrest : Pieced rest cs) :
      Pieced (encodeCode c.toNat ++ rest) (c :: cs)
  /-- A broken piece, of one to three octets, is read as the one that stands for it. -/
  | broken (first : UInt8) (behind : Bytes) {rest : Bytes} {cs : List Char}
      (hfew : behind.length ≤ 2) (hrest : Pieced rest cs) :
      Pieced (first :: behind ++ rest) (replacement :: cs)

/-! ## Octets of characters -/

lemma octet_toNat (b : UInt8) : octet b.toNat = b := UInt8.ofNat_toNat

lemma toNat_ofNat {n : ℕ} (hn : n < 0xD800 ∨ 0xDFFF < n ∧ n < 0x110000) :
    (Char.ofNat n).toNat = n := by
  have hvalid : n.isValidChar := hn
  have hchar : Char.ofNat n = Char.ofNatAux n hvalid := dif_pos hvalid
  rw [hchar]
  rfl

lemma within_iff {lo hi : ℕ} {b : UInt8} : within lo hi b = true ↔ lo ≤ b.toNat ∧ b.toNat ≤ hi := by
  simp [within]

/-- What is known of the value of a first octet by what it announces. -/
def Lead.Fits (n : ℕ) : Lead → Prop
  | single => n < 0x80
  | none => True
  | two => 0xC2 ≤ n ∧ n < 0xE0
  | three lo hi => 0xE0 ≤ n ∧ n < 0xF0 ∧ 0x80 ≤ lo ∧ hi ≤ 0xBF ∧
    (n = 0xE0 → 0xA0 ≤ lo) ∧ (n = 0xED → hi ≤ 0x9F)
  | four lo hi => 0xF0 ≤ n ∧ n ≤ 0xF4 ∧ 0x80 ≤ lo ∧ hi ≤ 0xBF ∧
    (n = 0xF0 → 0x90 ≤ lo) ∧ (n = 0xF4 → hi ≤ 0x8F)

lemma Lead.fits_ofOctet (b : UInt8) : (Lead.ofOctet b).Fits b.toNat := by
  unfold Lead.ofOctet
  dsimp only
  split_ifs <;> simp only [Fits] <;> omega

variable {a b c d : UInt8} {lo hi : ℕ}

lemma fits_of_lead {lead : Lead} (hlead : Lead.ofOctet a = lead) : lead.Fits a.toNat :=
  hlead ▸ Lead.fits_ofOctet a

lemma encodeCode_single (hlead : Lead.ofOctet a = .single) :
    encodeCode (Char.ofNat a.toNat).toNat = [a] := by
  have ha : a.toNat < 0x80 := fits_of_lead hlead
  rw [toNat_ofNat (by omega), encodeCode, if_pos ha, octet_toNat]

lemma encodeCode_join₂ (hlead : Lead.ofOctet a = .two) (hb : isTail b = true) :
    encodeCode (join₂ a b).toNat = [a, b] := by
  have ha : 0xC2 ≤ a.toNat ∧ a.toNat < 0xE0 := fits_of_lead hlead
  have hb' := within_iff.1 hb
  rw [join₂, toNat_ofNat (by omega), encodeCode, if_neg (by omega), if_pos (by omega)]
  rw [show 0xC0 + (a.toNat % 32 * 64 + b.toNat % 64) / 64 = a.toNat by omega,
    show 0x80 + (a.toNat % 32 * 64 + b.toNat % 64) % 64 = b.toNat by omega, octet_toNat,
    octet_toNat]

lemma encodeCode_join₃ (hlead : Lead.ofOctet a = .three lo hi) (hb : within lo hi b = true)
    (hc : isTail c = true) : encodeCode (join₃ a b c).toNat = [a, b, c] := by
  -- the narrower ranges keep the code out of those with a shorter form and of the surrogates
  obtain ⟨ha, ha', hlo, hhi, hlow, hsurrogate⟩ := fits_of_lead hlead
  have hb' := within_iff.1 hb
  have hc' := within_iff.1 hc
  generalize hcode : a.toNat % 16 * 4096 + b.toNat % 64 * 64 + c.toNat % 64 = code
  rw [join₃, hcode, toNat_ofNat (by omega), encodeCode, if_neg (by omega), if_neg (by omega),
    if_pos (by omega), show 0xE0 + code / 4096 = a.toNat by omega,
    show 0x80 + code / 64 % 64 = b.toNat by omega, show 0x80 + code % 64 = c.toNat by omega,
    octet_toNat, octet_toNat, octet_toNat]

lemma encodeCode_join₄ (hlead : Lead.ofOctet a = .four lo hi) (hb : within lo hi b = true)
    (hc : isTail c = true) (hd : isTail d = true) :
    encodeCode (join₄ a b c d).toNat = [a, b, c, d] := by
  obtain ⟨ha, ha', hlo, hhi, hlow, hhigh⟩ := fits_of_lead hlead
  have hb' := within_iff.1 hb
  have hc' := within_iff.1 hc
  have hd' := within_iff.1 hd
  generalize hcode : a.toNat % 8 * 262144 + b.toNat % 64 * 4096 + c.toNat % 64 * 64 +
    d.toNat % 64 = code
  rw [join₄, hcode, toNat_ofNat (by omega), encodeCode, if_neg (by omega), if_neg (by omega),
    if_neg (by omega), show 0xF0 + code / 262144 = a.toNat by omega,
    show 0x80 + code / 4096 % 64 = b.toNat by omega,
    show 0x80 + code / 64 % 64 = c.toNat by omega, show 0x80 + code % 64 = d.toNat by omega,
    octet_toNat, octet_toNat, octet_toNat, octet_toNat]

/-! ## All octets -/

lemma Pieced.of_encodeCode {piece rest : Bytes} {cs : List Char} {char : Char}
    (hpiece : encodeCode char.toNat = piece) (hrest : Pieced rest cs) :
    Pieced (piece ++ rest) (char :: cs) :=
  hpiece ▸ .character char hrest

/-- Repairing reads any octets piece by piece. -/
theorem pieced_repairChars (bytes : Bytes) : Pieced bytes (repairChars bytes) := by
  fun_induction repairChars bytes with
  | case1 => exact .nil
  | case2 a rest hlead ih => exact .of_encodeCode (encodeCode_single hlead) ih
  | case3 a rest hlead ih =>
    -- no character begins with the octet
    exact .broken a [] (by simp) ih
  | case4 a hlead => exact .broken a [] (by simp) .nil
  | case5 a hlead b rest hb ih => exact .of_encodeCode (encodeCode_join₂ hlead hb) ih
  | case6 a hlead b rest hb ih => exact .broken a [] (by simp) ih
  | case7 a lo hi hlead => exact .broken a [] (by simp) .nil
  | case8 a lo hi hlead b hb => exact .broken a [b] (by simp) .nil
  | case9 a lo hi hlead b hb c rest hc ih =>
    exact .of_encodeCode (encodeCode_join₃ hlead hb hc) ih
  | case10 a lo hi hlead b hb c rest hc ih => exact .broken a [b] (by simp) ih
  | case11 a lo hi hlead b rest hb ih => exact .broken a [] (by simp) ih
  | case12 a lo hi hlead => exact .broken a [] (by simp) .nil
  | case13 a lo hi hlead b hb => exact .broken a [b] (by simp) .nil
  | case14 a lo hi hlead b hb c hc => exact .broken a [b, c] (by simp) .nil
  | case15 a lo hi hlead b hb c hc d rest hd ih =>
    exact .of_encodeCode (encodeCode_join₄ hlead hb hc hd) ih
  | case16 a lo hi hlead b hb c hc d rest hd ih => exact .broken a [b, c] (by simp) ih
  | case17 a lo hi hlead b hb c rest hc ih => exact .broken a [b] (by simp) ih
  | case18 a lo hi hlead b rest hb ih => exact .broken a [] (by simp) ih

variable {bytes : Bytes} {cs : List Char}

lemma encodeChars_cons_length (c : Char) (cs : List Char) : (encodeChars (c :: cs)).length =
    (encodeCode c.toNat).length + (encodeChars cs).length := by
  rw [encodeChars, List.flatMap_cons, List.length_append, encodeChars]

lemma encodeCode_replacement_length : (encodeCode replacement.toNat).length = 3 := rfl

/-- Each piece is read as a character with at least as many octets. -/
lemma Pieced.length_le (h : Pieced bytes cs) : bytes.length ≤ (encodeChars cs).length := by
  induction h with
  | nil => exact Nat.le_refl _
  | character c hrest ih =>
    rw [encodeChars_cons_length, List.length_append]
    omega
  | broken first behind hfew hrest ih =>
    rw [encodeChars_cons_length, encodeCode_replacement_length, List.length_append,
      List.length_cons]
    omega

/-- No character has more than three times the octets of the piece that it is read from. -/
lemma Pieced.le_length (h : Pieced bytes cs) : (encodeChars cs).length ≤ 3 * bytes.length := by
  induction h with
  | nil => exact Nat.le_refl _
  | character c hrest ih =>
    rw [encodeChars_cons_length, List.length_append]
    omega
  | broken first behind hfew hrest ih =>
    rw [encodeChars_cons_length, encodeCode_replacement_length, List.length_append,
      List.length_cons]
    omega

theorem length_le_size_repair (bytes : Bytes) : bytes.length ≤ (repair bytes).utf8ByteSize := by
  rw [← size_eq, size, repair, encode_ofList]
  exact (pieced_repairChars bytes).length_le

theorem size_repair_le (bytes : Bytes) : (repair bytes).utf8ByteSize ≤ 3 * bytes.length := by
  rw [← size_eq, size, repair, encode_ofList]
  exact (pieced_repairChars bytes).le_length

/-- Where there are octets, something is read. -/
lemma repair_eq_empty_iff : repair bytes = "" ↔ bytes = [] := by
  refine ⟨fun hrepair => ?_, fun hbytes => by rw [hbytes]; rfl⟩
  have hsize := length_le_size_repair bytes
  rw [hrepair] at hsize
  exact List.length_eq_zero_iff.1 (Nat.le_zero.1 hsize)

/-- The size of octets that are text is kept. -/
theorem size_repair {s : String} (h : decode? bytes = some s) :
    (repair bytes).utf8ByteSize = bytes.length := by
  obtain rfl := encode_of_decode? h
  rw [repair_encode, ← size_eq, size]

end Utf8
end PluginHost
