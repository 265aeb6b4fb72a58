/-
# Scanned characters

A scanner `Passes` over characters when they add something to what it has read and leave it in some
state.  What is written for one character after the other is passed over piece by piece, so a text
is read back once each of its characters is.

What is written between quotes are the codes of characters, and what stands outside of them are the
digits of numbers.
-/
import Mathlib.Data.Nat.Digits.Defs
import Mathlib.Tactic.IntervalCases
import PluginHost.Proofs.Text.Utf8
import PluginHost.Text.Scan

namespace PluginHost

namespace Scanner

variable {σ τ : Type} {m : Scanner σ τ} {s s' s'' : σ} {cs cs' : List Char} {read read' : List τ}

/-- From the state `s` the characters `cs` add `read`, and leave the state `s'`. -/
def Passes (m : Scanner σ τ) (s : σ) (cs : List Char) (read : List τ) (s' : σ) : Prop :=
  ∀ rest, m.run s (cs ++ rest) = (m.run s' rest).map fun (more, rest) => (read ++ more, rest)

lemma passes_of_step {c : Char} (h : m.step s c = .go read s') : m.Passes s [c] read s' := by
  intro rest
  simp [run, h]

lemma Passes.trans (h : m.Passes s cs read s') (h' : m.Passes s' cs' read' s'') :
    m.Passes s (cs ++ cs') (read ++ read') s'' := by
  intro rest
  rw [List.append_assoc, h, h', Option.map_map]
  simp [Function.comp_def]

lemma Passes.cons {c : Char} (h : m.step s c = .go read s') (h' : m.Passes s' cs' read' s'') :
    m.Passes s (c :: cs') (read ++ read') s'' :=
  (passes_of_step h).trans h'

lemma Passes.run_eq (h : m.Passes s cs read s') {more : List τ} {rest rest' : List Char}
    (hrun : m.run s' rest = some (more, rest')) :
    m.run s (cs ++ rest) = some (read ++ more, rest') := by
  rw [h, hrun]
  rfl

end Scanner

/-- The code of a character is never that of a half of one. -/
lemma charOfCode?_toNat (c : Char) : charOfCode? c.toNat = some c := by
  rw [charOfCode?, if_pos (Utf8.toNat_valid c), Char.ofNat_toNat]

/-! ## Digits -/

section Digits

variable {n : Nat} {c : Char}

lemma toDigits_digit (hc : c ∈ Nat.toDigits 10 n) : 48 ≤ c.toNat ∧ c.toNat ≤ 57 := by
  have hdigit := Nat.isDigit_of_mem_toDigits (by decide) (by decide) hc
  simpa [Char.isDigit, UInt32.le_iff_toNat_le] using hdigit

lemma hexValue?_digit (hc : 48 ≤ c.toNat ∧ c.toNat ≤ 57) : hexValue? c = some (c.toNat - 48) := by
  simp [hexValue?, hc]

/-- Only zero begins with a zero. -/
lemma head?_toDigits (h : (Nat.toDigits 10 n).head? = some '0') : n = 0 := by
  induction n using Nat.strongRecOn with
  | ind n ih =>
    rw [Nat.toDigits_eq_if (by decide)] at h
    split at h
    · next hlt =>
      interval_cases n <;> first | rfl | exact absurd h (by decide)
    · next hge =>
      obtain ⟨d, ds, hds⟩ :=
        List.exists_cons_of_ne_nil (Nat.toDigits_ne_nil (n := n / 10) (b := 10))
      have := ih (n / 10) (by omega) (by simpa [hds] using h)
      omega

end Digits

end PluginHost
