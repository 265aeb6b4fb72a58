/-
# Text survives the boundary

What is written as octets is read back as it was (`Utf8.repair_encode`): repairing only touches
octets that no text is written as.  The proof takes one character at a time.  The first octet of
a character announces how many follow, and those that follow stay in the range that the first one
sets; there the codes of surrogates, which no character has, have to be kept out.

A text that crosses the boundary loses what stands behind its first NUL, and nothing else
(`Terminated.read_store_encode`).  This holds because the octets of a character are none of them
zero, unless the character is the NUL.
-/
import Mathlib.Data.List.TakeWhile
import Mathlib.Data.String.Basic
import Mathlib.Tactic.Lemma
import Mathlib.Tactic.SplitIfs
import PluginHost.Ledger.Buffer

namespace PluginHost

namespace Utf8

/-! ## Octets -/

lemma toNat_octet {n : Nat} (hn : n < 256) : (octet n).toNat = n := by
  rw [octet, UInt8.toNat_ofNat']
  exact Nat.mod_eq_of_lt hn

lemma octet_eq_zero_iff {n : Nat} (hn : n < 256) : octet n = 0 ↔ n = 0 := by
  rw [← UInt8.toNat_inj, toNat_octet hn]
  rfl

lemma isTail_octet {n : Nat} (hlow : 0x80 ≤ n) (hhigh : n ≤ 0xBF) : isTail (octet n) = true := by
  simp only [isTail, within, toNat_octet (by omega : n < 256)]
  simp [hlow, hhigh]

/-- The codes of characters leave out those of surrogates. -/
lemma toNat_valid (c : Char) :
    c.toNat < 0xD800 ∨ 0xDFFF < c.toNat ∧ c.toNat < 0x110000 := c.valid

/-! ## One character -/

variable (c : Char) (rest : Bytes)

lemma repairChars_one (hc : c.toNat < 0x80) :
    repairChars (octet c.toNat :: rest) = c :: repairChars rest := by
  have hlead : Lead.ofOctet (octet c.toNat) = .single := by
    simp [Lead.ofOctet, toNat_octet (by omega : c.toNat < 256), hc]
  rw [repairChars.eq_def]
  simp only [hlead, toNat_octet (by omega : c.toNat < 256), Char.ofNat_toNat]

lemma repairChars_two (hlow : 0x80 ≤ c.toNat) (hhigh : c.toNat < 0x800) :
    repairChars (octet (0xC0 + c.toNat / 64) :: octet (0x80 + c.toNat % 64) :: rest) =
      c :: repairChars rest := by
  have hfirst : (octet (0xC0 + c.toNat / 64)).toNat = 0xC0 + c.toNat / 64 :=
    toNat_octet (by omega)
  have hlast : (octet (0x80 + c.toNat % 64)).toNat = 0x80 + c.toNat % 64 := toNat_octet (by omega)
  have hlead : Lead.ofOctet (octet (0xC0 + c.toNat / 64)) = .two := by
    unfold Lead.ofOctet
    rw [hfirst]
    dsimp only
    rw [if_neg (by omega), if_neg (by omega), if_pos (by omega)]
  have hjoin : join₂ (octet (0xC0 + c.toNat / 64)) (octet (0x80 + c.toNat % 64)) = c := by
    have hcode : (0xC0 + c.toNat / 64) % 32 * 64 + (0x80 + c.toNat % 64) % 64 = c.toNat := by
      omega
    rw [join₂, hfirst, hlast, hcode, Char.ofNat_toNat]
  rw [repairChars.eq_def]
  simp only [hlead, isTail_octet (by omega : 0x80 ≤ 0x80 + c.toNat % 64) (by omega), hjoin, if_true]

/-- The range for the second octet of three. -/
lemma lead_three (hlow : 0x800 ≤ c.toNat) (hhigh : c.toNat < 0x10000) :
    ∃ lo hi, Lead.ofOctet (octet (0xE0 + c.toNat / 4096)) = .three lo hi ∧
      lo ≤ 0x80 + c.toNat / 64 % 64 ∧ 0x80 + c.toNat / 64 % 64 ≤ hi := by
  have hvalid := toNat_valid c
  unfold Lead.ofOctet
  rw [toNat_octet (by omega)]
  dsimp only
  rw [if_neg (by omega), if_neg (by omega), if_neg (by omega)]
  split_ifs with hfirst hsurrogates
  · exact ⟨0xA0, 0xBF, rfl, by omega, by omega⟩
  · -- behind this octet the codes of surrogates would begin
    exact ⟨0x80, 0x9F, rfl, by omega, by omega⟩
  · exact ⟨0x80, 0xBF, rfl, by omega, by omega⟩
  all_goals omega

lemma repairChars_three (hlow : 0x800 ≤ c.toNat) (hhigh : c.toNat < 0x10000) :
    repairChars (octet (0xE0 + c.toNat / 4096) :: octet (0x80 + c.toNat / 64 % 64) ::
      octet (0x80 + c.toNat % 64) :: rest) = c :: repairChars rest := by
  have hfirst : (octet (0xE0 + c.toNat / 4096)).toNat = 0xE0 + c.toNat / 4096 :=
    toNat_octet (by omega)
  have hsecond : (octet (0x80 + c.toNat / 64 % 64)).toNat = 0x80 + c.toNat / 64 % 64 :=
    toNat_octet (by omega)
  have hlast : (octet (0x80 + c.toNat % 64)).toNat = 0x80 + c.toNat % 64 := toNat_octet (by omega)
  obtain ⟨lo, hi, hlead, hlo, hhi⟩ := lead_three c hlow hhigh
  have hwithin : within lo hi (octet (0x80 + c.toNat / 64 % 64)) = true := by
    simp only [within, hsecond, hlo, hhi, decide_true, Bool.and_self]
  have hjoin : join₃ (octet (0xE0 + c.toNat / 4096)) (octet (0x80 + c.toNat / 64 % 64))
      (octet (0x80 + c.toNat % 64)) = c := by
    have hcode : (0xE0 + c.toNat / 4096) % 16 * 4096 + (0x80 + c.toNat / 64 % 64) % 64 * 64 +
        (0x80 + c.toNat % 64) % 64 = c.toNat := by omega
    rw [join₃, hfirst, hsecond, hlast, hcode, Char.ofNat_toNat]
  rw [repairChars.eq_def]
  simp only [hlead, hwithin, isTail_octet (by omega : 0x80 ≤ 0x80 + c.toNat % 64) (by omega), hjoin,
    if_true]

/-- The range for the second octet of four. -/
lemma lead_four (hlow : 0x10000 ≤ c.toNat) :
    ∃ lo hi, Lead.ofOctet (octet (0xF0 + c.toNat / 262144)) = .four lo hi ∧
      lo ≤ 0x80 + c.toNat / 4096 % 64 ∧ 0x80 + c.toNat / 4096 % 64 ≤ hi := by
  have hvalid := toNat_valid c
  unfold Lead.ofOctet
  rw [toNat_octet (by omega)]
  dsimp only
  rw [if_neg (by omega), if_neg (by omega), if_neg (by omega), if_neg (by omega),
    if_neg (by omega), if_neg (by omega)]
  split_ifs with hfirst hmiddle hlast
  · exact ⟨0x90, 0xBF, rfl, by omega, by omega⟩
  · exact ⟨0x80, 0xBF, rfl, by omega, by omega⟩
  · exact ⟨0x80, 0x8F, rfl, by omega, by omega⟩
  · omega

lemma repairChars_four (hlow : 0x10000 ≤ c.toNat) :
    repairChars (octet (0xF0 + c.toNat / 262144) :: octet (0x80 + c.toNat / 4096 % 64) ::
      octet (0x80 + c.toNat / 64 % 64) :: octet (0x80 + c.toNat % 64) :: rest) =
      c :: repairChars rest := by
  have hvalid := toNat_valid c
  have hfirst : (octet (0xF0 + c.toNat / 262144)).toNat = 0xF0 + c.toNat / 262144 :=
    toNat_octet (by omega)
  have hsecond : (octet (0x80 + c.toNat / 4096 % 64)).toNat = 0x80 + c.toNat / 4096 % 64 :=
    toNat_octet (by omega)
  have hthird : (octet (0x80 + c.toNat / 64 % 64)).toNat = 0x80 + c.toNat / 64 % 64 :=
    toNat_octet (by omega)
  have hlast : (octet (0x80 + c.toNat % 64)).toNat = 0x80 + c.toNat % 64 := toNat_octet (by omega)
  obtain ⟨lo, hi, hlead, hlo, hhi⟩ := lead_four c hlow
  have hwithin : within lo hi (octet (0x80 + c.toNat / 4096 % 64)) = true := by
    simp only [within, hsecond, hlo, hhi, decide_true, Bool.and_self]
  have hjoin : join₄ (octet (0xF0 + c.toNat / 262144)) (octet (0x80 + c.toNat / 4096 % 64))
      (octet (0x80 + c.toNat / 64 % 64)) (octet (0x80 + c.toNat % 64)) = c := by
    have hcode : (0xF0 + c.toNat / 262144) % 8 * 262144 +
        (0x80 + c.toNat / 4096 % 64) % 64 * 4096 + (0x80 + c.toNat / 64 % 64) % 64 * 64 +
        (0x80 + c.toNat % 64) % 64 = c.toNat := by omega
    rw [join₄, hfirst, hsecond, hthird, hlast, hcode, Char.ofNat_toNat]
  rw [repairChars.eq_def]
  simp only [hlead, hwithin, isTail_octet (by omega : 0x80 ≤ 0x80 + c.toNat / 64 % 64) (by omega),
    isTail_octet (by omega : 0x80 ≤ 0x80 + c.toNat % 64) (by omega), hjoin, if_true]

/-- The octets of a character are read as this character, whatever follows. -/
lemma repairChars_encodeCode :
    repairChars (encodeCode c.toNat ++ rest) = c :: repairChars rest := by
  unfold encodeCode
  split_ifs with hone htwo hthree
  · exact repairChars_one c rest hone
  · exact repairChars_two c rest (by omega) htwo
  · exact repairChars_three c rest (by omega) hthree
  · exact repairChars_four c rest (by omega)

/-- Only the NUL is written with an octet that is zero. -/
lemma zero_mem_encodeCode_iff : (0 : UInt8) ∈ encodeCode c.toNat ↔ c = '\x00' := by
  have hvalid := toNat_valid c
  have hne : ∀ {n : Nat}, 0 < n → n < 256 → (0 : UInt8) ≠ octet n := by
    intro n hpos hlt hzero
    have := (octet_eq_zero_iff hlt).1 hzero.symm
    omega
  constructor
  · intro hmem
    unfold encodeCode at hmem
    split_ifs at hmem with hone htwo hthree
    · have hcode := (octet_eq_zero_iff (by omega)).1 (List.mem_singleton.1 hmem).symm
      rw [← Char.ofNat_toNat c, hcode]
    · simp only [List.mem_cons, List.not_mem_nil, or_false] at hmem
      rcases hmem with hmem | hmem <;> exact absurd hmem (hne (by omega) (by omega))
    · simp only [List.mem_cons, List.not_mem_nil, or_false] at hmem
      rcases hmem with hmem | hmem | hmem <;> exact absurd hmem (hne (by omega) (by omega))
    · simp only [List.mem_cons, List.not_mem_nil, or_false] at hmem
      rcases hmem with hmem | hmem | hmem | hmem <;> exact absurd hmem (hne (by omega) (by omega))
  · rintro rfl
    decide

/-! ## Texts -/

lemma repairChars_encodeChars (cs : List Char) : repairChars (encodeChars cs) = cs := by
  induction cs with
  | nil => rfl
  | cons c cs ih =>
    rw [encodeChars, List.flatMap_cons, repairChars_encodeCode]
    exact congrArg _ ih

/-- **Text is read back as it was written.** -/
theorem repair_encode (s : String) : repair (encode s) = s := by
  rw [repair, encode, repairChars_encodeChars, String.ofList_toList]

lemma decode?_encode (s : String) : decode? (encode s) = some s := by
  rw [decode?, repair_encode, if_pos rfl]

/-- A character has the octets that it has in the texts of the language itself. -/
lemma encodeCode_eq (c : Char) : encodeCode c.toNat = String.utf8EncodeChar c := by
  have hvalid := toNat_valid c
  have hval : c.val.toNat = c.toNat := rfl
  -- what is left of the code for the first octet is small enough as it is
  have htwo : c.toNat < 0x800 → 0xC0 + c.toNat / 64 = c.toNat / 64 % 32 + 192 := by omega
  have hthree : c.toNat < 0x10000 → 0xE0 + c.toNat / 4096 = c.toNat / 4096 % 16 + 224 := by omega
  have hfour : 0xF0 + c.toNat / 262144 = c.toNat / 262144 % 8 + 240 := by omega
  simp only [encodeCode, String.utf8EncodeChar, hval, octet, Nat.add_comm 0x80]
  split_ifs <;> grind

lemma encode_eq_toUTF8 (s : String) : encode s = s.toUTF8.data.toList := by
  have hoctets : s.toUTF8 = s.toList.utf8Encode := by
    rw [String.toUTF8_eq_toByteArray, ← String.toByteArray_ofList, String.ofList_toList]
  rw [hoctets, List.utf8Encode, List.data_toByteArray, encode, encodeChars]
  exact List.flatMap_congr fun c _ => encodeCode_eq c

lemma size_eq (s : String) : size s = s.utf8ByteSize := by
  rw [size, encode_eq_toUTF8, Array.length_toList]
  rfl

end Utf8

/-! ## The first NUL -/

namespace Terminated

/-- A text up to its first NUL. -/
def cut (s : String) : String := String.ofList (s.toList.takeWhile (· ≠ '\x00'))

lemma toList_cut (s : String) : (cut s).toList = s.toList.takeWhile (· ≠ '\x00') := by
  rw [cut, String.toList_ofList]

lemma cut_eq_self {s : String} (hnul : '\x00' ∉ s.toList) : cut s = s := by
  have hall : s.toList.takeWhile (· ≠ '\x00') = s.toList :=
    List.takeWhile_eq_self_iff.2 fun c hc => decide_eq_true (ne_of_mem_of_not_mem hc hnul)
  rw [cut, hall, String.ofList_toList]

lemma untilNul_encodeChars (cs : List Char) :
    untilNul (Utf8.encodeChars cs) = Utf8.encodeChars (cs.takeWhile (· ≠ '\x00')) := by
  induction cs with
  | nil => rfl
  | cons c cs ih =>
    by_cases hc : c = '\x00'
    · subst hc
      rfl
    · have hoctets : ∀ b ∈ Utf8.encodeCode c.toNat, (decide (b ≠ 0)) = true := by
        intro b hb
        have hne : b ≠ 0 := by
          rintro rfl
          exact hc ((Utf8.zero_mem_encodeCode_iff c).1 hb)
        simpa using hne
      rw [List.takeWhile_cons_of_pos (by simpa using hc), Utf8.encodeChars, Utf8.encodeChars,
        List.flatMap_cons, List.flatMap_cons, untilNul, List.takeWhile_append_of_pos hoctets]
      exact congrArg _ ih

lemma untilNul_encode (s : String) : untilNul (Utf8.encode s) = Utf8.encode (cut s) := by
  rw [cut, Utf8.encode_ofList]
  exact untilNul_encodeChars s.toList

/-- A reader stops at the NUL, whatever stands behind it. -/
lemma untilNul_append {octets : Bytes} (hnul : (0 : UInt8) ∉ octets) (behind : Bytes) :
    untilNul (octets ++ 0 :: behind) = octets := by
  rw [untilNul, List.takeWhile_append_of_pos
    fun b hb => decide_eq_true (ne_of_mem_of_not_mem hb hnul), List.takeWhile_cons_of_neg (by simp),
    List.append_nil]

/-- **A text that crosses the boundary ends at its first NUL, and is whole up to there.** -/
theorem read_store_encode (s : String) : read (store (Utf8.encode s)) = cut s := by
  rw [read, untilNul_store, untilNul_encode, Utf8.repair_encode]

end Terminated

lemma Contents.ofText_eq (s : String) :
    Contents.ofText s = .text (Utf8.encode (Terminated.cut s)) := by
  rw [ofText, Terminated.untilNul_encode]

end PluginHost
