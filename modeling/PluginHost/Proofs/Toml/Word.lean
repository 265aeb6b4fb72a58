/-
# Values read back

`Stands value item` says that characters on a line are read as a value, up to the end of the line.
It holds of every text in quotes (`stands_text`), and of what stands without quotes, one word, if
the word is one of that value: integers and flags always are, and a number is one of the characters
for which this can be asked (`stands_number`).
-/
import Mathlib.Data.List.TakeWhile
import PluginHost.Proofs.Toml.Text
import PluginHost.Toml.Value

namespace PluginHost.Toml

open Written

/-- On a line these characters are read as a value. -/
structure Stands (value : List Char) (item : Item) : Prop where
  /-- They do not begin with a blank. -/
  tight : ∀ rest, skipBlanks (value ++ '\n' :: rest) = value ++ '\n' :: rest
  /-- The reader stops at the end of the line. -/
  read : ∀ rest, readValue (value ++ '\n' :: rest) = some (item, '\n' :: rest)

lemma skipBlanks_cons {c : Char} (cs : List Char) (hblank : c ≠ ' ') (htab : c ≠ '\t') :
    skipBlanks (c :: cs) = c :: cs := by
  simp [skipBlanks, hblank, htab]

/-! ## Texts -/

lemma exists_text (s : String) :
    ∃ quote more, text s = quote :: more ∧ (quote = '"' ∨ quote = '\'') := by
  simp only [text]
  split
  · exact ⟨'"', _, rfl, .inl rfl⟩
  · exact ⟨'\'', _, rfl, .inr rfl⟩
  · exact ⟨'"', _, rfl, .inl rfl⟩
  · exact ⟨'\'', _, rfl, .inr rfl⟩

lemma stands_text (s : String) : Stands (text s) (.string s) := by
  have hread : ∀ rest, readQuoted (text s ++ '\n' :: rest) = some (.string s, '\n' :: rest) := by
    intro rest
    rw [readQuoted, readText_text s rest (by decide) (by decide)]
    simp
  obtain ⟨quote, more, htext, hquote⟩ := exists_text s
  rw [htext] at hread ⊢
  obtain rfl | rfl := hquote
  · exact ⟨fun rest => skipBlanks_cons _ (by decide) (by decide), hread⟩
  · exact ⟨fun rest => skipBlanks_cons _ (by decide) (by decide), hread⟩

/-- An empty list. -/
lemma stands_empty : Stands ['[', ']'] (.array []) :=
  ⟨fun _ => skipBlanks_cons _ (by decide) (by decide), fun _ => rfl⟩

/-! ## Words -/

/-- What can stand in a word anywhere. -/
def isWordy (c : Char) : Bool := isWordChar c && c ≠ '"' && c ≠ '\''

section Word

variable {word : List Char} {item : Item}

lemma splitWord_append (hword : ∀ c ∈ word, isWordy c = true) (rest : List Char) :
    splitWord (word ++ '\n' :: rest) = (word, '\n' :: rest) := by
  induction word with
  | nil =>
    have hend : isWordChar '\n' = false := by decide
    simp [splitWord, hend]
  | cons c word ih =>
    have hc : isWordChar c = true := by
      have := hword c List.mem_cons_self
      simp only [isWordy, Bool.and_eq_true] at this
      exact this.1.1
    simp [splitWord, hc, ih fun d hd => hword d (List.mem_cons_of_mem _ hd)]

/-- A word that is one of a value. -/
lemma stands_word (hword : ∀ c ∈ word, isWordy c = true) (hitem : scalar? word = some item) :
    Stands word item := by
  cases word with
  | nil => cases hitem.symm.trans (rfl : scalar? [] = none)
  | cons c word =>
    have hc := hword c List.mem_cons_self
    have hne : ∀ d, isWordy d = false → c ≠ d := by
      rintro d hd rfl
      exact absurd hc (by simp [hd])
    refine ⟨fun rest => skipBlanks_cons _ (hne _ (by decide)) (hne _ (by decide)), fun rest => ?_⟩
    have hsplit := splitWord_append hword rest
    rw [List.cons_append] at hsplit ⊢
    rw [readValue, readValueTo.eq_def]
    split
    · next heq => exact absurd (List.cons.inj heq).1 (hne _ (by decide))
    · next heq => exact absurd (List.cons.inj heq).1 (hne _ (by decide))
    · next heq => exact absurd (List.cons.inj heq).1 (hne _ (by decide))
    · next heq => exact absurd (List.cons.inj heq).1 (hne _ (by decide))
    · next heq => exact absurd (List.cons.inj heq).1 (hne _ (by decide))
    · next heq => exact absurd (List.cons.inj heq).1 (hne _ (by decide))
    · simp [hsplit, hitem]

end Word

/-! ## Integers -/

section Digits

variable {n : Nat} {c : Char} {ds : List Char}

lemma isDigitTo_digit (hc : 48 ≤ c.toNat ∧ c.toNat ≤ 57) : isDigitTo 10 c = true := by
  simp only [isDigitTo, hexValue?_digit hc, decide_eq_true_eq]
  omega

lemma isWordy_digit (hc : 48 ≤ c.toNat ∧ c.toNat ≤ 57) : isWordy c = true := by
  rw [← Char.ofNat_toNat c]
  obtain ⟨hlow, hhigh⟩ := hc
  generalize c.toNat = code at *
  interval_cases code <;> decide

/-- Digits without separators are read as they are. -/
lemma digits?_eq {isDigit : Char → Bool} (hseparator : isDigit '_' = false) (hne : ds ≠ [])
    (hdigits : ∀ c ∈ ds, isDigit c = true) : digits? isDigit ds = some ds := by
  induction ds with
  | nil => exact absurd rfl hne
  | cons c ds ih =>
    have hc := hdigits c List.mem_cons_self
    cases ds with
    | nil => simp [digits?, hc]
    | cons d ds =>
      have hd : d ≠ '_' := by
        rintro rfl
        exact absurd (hdigits '_' (by simp)) (by simp [hseparator])
      rw [digits?]
      · simp [hc, ih (by simp) fun e he => hdigits e (List.mem_cons_of_mem _ he)]
      · simp
      · simpa using hd

lemma digitsValue_eq (hdigits : ∀ c ∈ ds, 48 ≤ c.toNat ∧ c.toNat ≤ 57) :
    digitsValue 10 ds = Nat.ofDigitChars 10 ds 0 := by
  have hfold : ∀ acc, ds.foldl (fun n c => n * 10 + (hexValue? c).getD 0) acc =
      ds.foldl (fun n c => 10 * n + (c.toNat - 48)) acc := by
    induction ds with
    | nil => exact fun acc => rfl
    | cons c ds ih =>
      intro acc
      have hc := hexValue?_digit (hdigits c List.mem_cons_self)
      rw [List.foldl_cons, List.foldl_cons, hc, Option.getD_some, Nat.mul_comm]
      exact ih (fun d hd => hdigits d (List.mem_cons_of_mem _ hd)) _
  exact hfold 0

lemma digitsValue_toDigits (n : Nat) : digitsValue 10 (Nat.toDigits 10 n) = n := by
  rw [digitsValue_eq fun c hc => toDigits_digit hc, Nat.ofDigitChars_ten_toDigits]

lemma wholeDigits?_toDigits (n : Nat) :
    wholeDigits? (Nat.toDigits 10 n) = some (Nat.toDigits 10 n) := by
  have hdigits : digits? (isDigitTo 10) (Nat.toDigits 10 n) = some (Nat.toDigits 10 n) :=
    digits?_eq (by decide) Nat.toDigits_ne_nil fun c hc => isDigitTo_digit (toDigits_digit hc)
  unfold wholeDigits?
  rw [hdigits]
  split
  · next heq =>
    have htwo := Option.some.inj heq
    have hzero : n = 0 := head?_toDigits (by rw [htwo]; rfl)
    subst hzero
    exact absurd (congrArg List.length htwo) (by simp)
  · rfl

end Digits

/-- An integer is read back. -/
lemma integer?_integer (n : Int) : integer? (integer n) = some n := by
  have hletter : ∀ {c : Char} {m : Nat} {rest : List Char},
      Nat.toDigits 10 m = '0' :: c :: rest → 57 < c.toNat → False := by
    intro c m rest hdigits hc
    have hmem : c ∈ Nat.toDigits 10 m := by simp [hdigits]
    have := toDigits_digit hmem
    omega
  by_cases hn : n < 0
  · have hword : integer n = '-' :: Nat.toDigits 10 n.natAbs := by simp [integer, hn]
    rw [hword]
    have habs : -(n.natAbs : Int) = n := by omega
    simp only [integer?, splitSign, wholeDigits?_toDigits, digitsValue_toDigits, Option.map_some]
    simpa using habs
  · have hword : integer n = Nat.toDigits 10 n.natAbs := by simp [integer, hn]
    rw [hword]
    unfold integer?
    split
    · next heq => exact (hletter heq (by decide)).elim
    · next heq => exact (hletter heq (by decide)).elim
    · next heq => exact (hletter heq (by decide)).elim
    · have hsign : splitSign (Nat.toDigits 10 n.natAbs) = (false, Nat.toDigits 10 n.natAbs) := by
        unfold splitSign
        split
        · next heq =>
          have := toDigits_digit (c := '-') (n := n.natAbs) (by simp [heq])
          exact absurd this (by decide)
        · next heq =>
          have := toDigits_digit (c := '+') (n := n.natAbs) (by simp [heq])
          exact absurd this (by decide)
        · rfl
      have habs : (n.natAbs : Int) = n := by omega
      simp only [hsign, wholeDigits?_toDigits, digitsValue_toDigits, Option.map_some]
      simpa using habs

lemma stands_integer (n : Int) : Stands (integer n) (.integer n) := by
  have hchars : ∀ c ∈ integer n, c = '-' ∨ (48 ≤ c.toNat ∧ c.toNat ≤ 57) := by
    intro c hc
    obtain hc | hc := List.mem_append.1 hc
    · split at hc
      · exact .inl (List.mem_singleton.1 hc)
      · exact absurd hc List.not_mem_nil
    · exact .inr (toDigits_digit hc)
  have hletter : ∀ {c : Char} {rest : List Char}, 57 < c.toNat → integer n ≠ c :: rest := by
    intro c rest hc hword
    obtain rfl | hdigit := hchars c (by simp [hword])
    · exact absurd hc (by decide)
    · omega
  refine stands_word (fun c hc => ?_) ?_
  · obtain rfl | hdigit := hchars c hc
    · decide
    · exact isWordy_digit hdigit
  · rw [scalar?, if_neg (hletter (by decide)), if_neg (hletter (by decide)), integer?_integer]

/-! ## Flags and numbers -/

lemma stands_flag (b : Bool) : Stands (flag b) (.boolean b) := by
  have hwordy : (flag b).all isWordy = true := by cases b <;> decide
  refine stands_word (List.all_eq_true.1 hwordy) ?_
  cases b <;> simp [scalar?, flag]

lemma isWordy_decimal (d : Shortest.Decimal) : ∀ c ∈ decimal d, isWordy c = true := by
  have hdigits : ∀ c ∈ Nat.toDigits 10 d.units, isWordy c = true :=
    fun c hc => isWordy_digit (toDigits_digit hc)
  have hzeros : ∀ places, ∀ c ∈ List.replicate places '0', isWordy c = true := by
    intro places c hc
    obtain rfl := (List.mem_replicate.1 hc).2
    decide
  intro c hc
  simp only [decimal] at hc
  split at hc
  · simp only [List.mem_append] at hc
    obtain (hc | hc) | hc := hc
    · exact hdigits c hc
    · exact hzeros _ c hc
    · exact List.all_eq_true.1 (show ['.', '0'].all isWordy = true by decide) c hc
  · have hpadded : ∀ places, ∀ c ∈ List.replicate places '0' ++ Nat.toDigits 10 d.units,
        isWordy c = true := by
      intro places c hc
      obtain hc | hc := List.mem_append.1 hc
      · exact hzeros _ c hc
      · exact hdigits c hc
    obtain hc | hc := List.mem_append.1 hc
    · obtain hc | hc := List.mem_append.1 hc
      · exact hpadded _ c (List.mem_of_mem_take hc)
      · obtain rfl := List.mem_singleton.1 hc
        decide
    · exact hpadded _ c (List.mem_of_mem_drop hc)

lemma isWordy_number (x : Binary32) : ∀ c ∈ number x, isWordy c = true := by
  unfold number
  split
  · exact List.all_eq_true.1 (by decide)
  · rw [List.forall_mem_append]
    constructor
    · split <;> exact List.all_eq_true.1 (by decide)
    · split
      · exact List.all_eq_true.1 (by decide)
      · split
        · exact List.all_eq_true.1 (by decide)
        · exact isWordy_decimal _

/-- A number whose characters are those of a value is read as this value. -/
lemma stands_number {x : Binary32} {item : Item} (h : scalar? (number x) = some item) :
    Stands (number x) item :=
  stands_word (isWordy_number x) h

end PluginHost.Toml
