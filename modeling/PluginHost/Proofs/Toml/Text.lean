/-
# Texts read back

Whatever text is written in quotes, in whichever of the four ways, is read back, and the reader
stops behind the closing quotes (`readText_text`).  Inside tripled quotes the state counts the
quotes in front, and a row of up to two of them is part of the text, at its end as well, where the
closing quotes follow.
-/
import PluginHost.Proofs.Text.Scan
import PluginHost.Toml.Written

namespace PluginHost

namespace Toml

open Scanner Written

/-- The reader of the text in double quotes, single or tripled ones. -/
def quotedText (long : Bool) : Scanner TextState Char :=
  if long then longText '"' true else basicText

section Characters

variable {long : Bool} {c : Char}

lemma step_escape : (quotedText long).step .escape c = TextStep.ofEscape long c := by
  cases long <;> rfl

lemma step_code {left value : Nat} :
    (quotedText long).step (.code left value) c = TextStep.ofDigit left value c := by
  cases long <;> rfl

lemma step_backslash : (quotedText long).step .plain '\\' = .go [] .escape := by
  cases long <;> rfl

lemma ne_break_of_isPlain (hplain : isPlain c = true) : c ≠ '\n' ∧ c ≠ '\r' := by
  constructor <;>
  · rintro rfl
    exact absurd hplain (by decide)

lemma step_plain (hplain : isPlain c = true) (hquote : c ≠ '"') (hbackslash : c ≠ '\\') :
    (quotedText long).step .plain c = .go [c] .plain := by
  obtain ⟨hbreak, hreturn⟩ := ne_break_of_isPlain hplain
  cases long
  · simp [quotedText, basicText, TextStep.ofBasic, hquote, hbackslash, hplain]
  · simp [quotedText, longText, TextStep.ofLong, hquote, hbackslash, hbreak, hreturn, hplain]

/-- An escape of one character. -/
lemma passes_escape {mark : Char} (h : escape? mark = some c) :
    (quotedText long).Passes .plain ['\\', mark] [c] .plain := by
  refine Passes.cons step_backslash (passes_of_step ?_)
  rw [step_escape, TextStep.ofEscape, h]

lemma hexValue?_upperDigit {n : Nat} (hn : n < 16) : hexValue? (upperDigit n) = some n := by
  interval_cases n <;> decide

/-- An escape by the code of a character. -/
lemma passes_code (hc : c.toNat < 128) :
    (quotedText long).Passes .plain
      ['\\', 'u', '0', '0', upperDigit (c.toNat / 16), upperDigit (c.toNat % 16)] [c] .plain := by
  have hhigh : hexValue? (upperDigit (c.toNat / 16)) = some (c.toNat / 16) :=
    hexValue?_upperDigit (by omega)
  have hlow : hexValue? (upperDigit (c.toNat % 16)) = some (c.toNat % 16) :=
    hexValue?_upperDigit (by omega)
  have hzero : hexValue? '0' = some 0 := by decide
  have hchar : charOfCode? (c.toNat / 16 * 16 + c.toNat % 16) = some c := by
    rw [Nat.div_add_mod', charOfCode?_toNat]
  have hmark : (quotedText long).step .escape 'u' = .go [] (.code 4 0) := by
    rw [step_escape]
    rfl
  have hfirst : (quotedText long).step (.code 4 0) '0' = .go [] (.code 3 0) := by
    simp [step_code, TextStep.ofDigit, hzero]
  have hsecond : (quotedText long).step (.code 3 0) '0' = .go [] (.code 2 0) := by
    simp [step_code, TextStep.ofDigit, hzero]
  have hthird : (quotedText long).step (.code 2 0) (upperDigit (c.toNat / 16)) =
      .go [] (.code 1 (c.toNat / 16)) := by
    simp [step_code, TextStep.ofDigit, hhigh]
  have hlast : (quotedText long).step (.code 1 (c.toNat / 16)) (upperDigit (c.toNat % 16)) =
      .go [c] .plain := by
    simp [step_code, TextStep.ofDigit, hlow, hchar]
  exact .cons step_backslash (.cons hmark (.cons hfirst (.cons hsecond (.cons hthird
    (passes_of_step hlast)))))

/-- A character between double quotes stands for itself, if not for a quote. -/
lemma passes_character (hquote : c ≠ '"') :
    (quotedText long).Passes .plain (character long c) [c] .plain := by
  unfold character
  split
  · next h =>
    subst h
    exact passes_escape rfl
  split
  · next h =>
    subst h
    exact passes_escape rfl
  split
  · next h =>
    subst h
    exact passes_escape rfl
  split
  · next h =>
    subst h
    exact passes_escape rfl
  split
  · next h =>
    subst h
    exact passes_escape rfl
  next hbackslash =>
  split
  · next h =>
    subst h
    cases long
    · exact passes_escape rfl
    · exact passes_of_step rfl
  split
  · next hplain => exact passes_of_step (step_plain hplain hquote hbackslash)
  · next hplain =>
    refine passes_code ?_
    simp only [isPlain, decide_eq_true_eq, not_or, not_and, not_not] at hplain
    by_contra hlarge
    have := hplain.2 (by omega)
    omega

/-- What is written for a character does not begin with a quote. -/
lemma exists_character (long : Bool) (hquote : c ≠ '"') :
    ∃ first more, character long c = first :: more ∧ first ≠ '"' := by
  unfold character
  repeat' split
  all_goals exact ⟨_, _, rfl, by simp_all⟩

end Characters

section Single

variable {cs rest : List Char} {c : Char}

lemma passes_body : (quotedText false).Passes .plain (body false cs) cs .plain := by
  have hbody : ∀ row, (quotedText false).Passes .plain (bodyFrom false row cs) cs .plain := by
    induction cs with
    | nil => exact fun row rest => by simp [bodyFrom]
    | cons c cs ih =>
      intro row
      unfold bodyFrom
      split
      · next h =>
        subst h
        exact (passes_escape rfl).trans (ih 0)
      · next h => exact (passes_character h).trans (ih 0)
  exact hbody 0

/-- No quote stands at the beginning of what is written between single double quotes. -/
lemma head?_body (hne : cs ≠ []) (more : List Char) : (body false cs ++ more).head? ≠ some '"' := by
  obtain ⟨c, cs, rfl⟩ := List.exists_cons_of_ne_nil hne
  by_cases hquote : c = '"'
  · subst hquote
    simp [body, bodyFrom, rowLimit]
  · obtain ⟨first, more', hcharacter, hfirst⟩ := exists_character false hquote
    simpa [body, bodyFrom, hquote, hcharacter] using hfirst

/-- A text of one line. -/
lemma readText_of_single {quote d d' : Char} (h : ¬ (d = quote ∧ d' = quote)) :
    readText (quote :: d :: d' :: rest) = readLine (quote :: d :: d' :: rest) := by
  unfold readText
  split
  · next heq => simp_all
  · next heq => simp_all
  · rfl

lemma readText_basic (hc : c ≠ '"') :
    readText ('"' :: body false cs ++ '"' :: c :: rest) = some (cs, c :: rest) := by
  have hline : readLine ('"' :: (body false cs ++ '"' :: c :: rest)) = some (cs, c :: rest) := by
    have hstop : (quotedText false).run .plain ('"' :: c :: rest) = some ([], c :: rest) := rfl
    have hpasses : (quotedText false).Passes .plain (body false cs) cs .plain := passes_body
    have hrun := hpasses.run_eq hstop
    rwa [List.append_nil] at hrun
  rw [List.cons_append, ← hline]
  cases cs with
  | nil => exact readText_of_single fun h => hc h.2
  | cons d cs =>
    have hhead : (body false (d :: cs) ++ '"' :: c :: rest).head? ≠ some '"' :=
      head?_body (List.cons_ne_nil d cs) _
    cases hbody : body false (d :: cs) with
    | nil => simp [hbody] at hhead
    | cons e es =>
      rw [hbody] at hhead
      have he : e ≠ '"' := by simpa using hhead
      cases es <;> exact readText_of_single fun h => he h.1

lemma passes_literal (hplain : ∀ d ∈ cs, isPlain d = true) (hquote : '\'' ∉ cs) :
    literalText.Passes .plain cs cs .plain := by
  induction cs with
  | nil => exact fun rest => by simp
  | cons d cs ih =>
    have hd : d ≠ '\'' := fun h => hquote (h ▸ List.mem_cons_self)
    have hstep : literalText.step .plain d = .go [d] .plain := by
      simp [literalText, hd, hplain d List.mem_cons_self]
    exact .cons hstep (ih (fun e he => hplain e (List.mem_cons_of_mem _ he))
      fun h => hquote (List.mem_cons_of_mem _ h))

lemma readText_literal (hplain : ∀ d ∈ cs, isPlain d = true) (hquote : '\'' ∉ cs)
    (hc : c ≠ '\'') :
    readText ('\'' :: cs ++ '\'' :: c :: rest) = some (cs, c :: rest) := by
  have hline : readLine ('\'' :: (cs ++ '\'' :: c :: rest)) = some (cs, c :: rest) := by
    have hstop : literalText.run .plain ('\'' :: c :: rest) = some ([], c :: rest) := rfl
    have hrun := (passes_literal hplain hquote).run_eq hstop
    rwa [List.append_nil] at hrun
  rw [List.cons_append, ← hline]
  cases cs with
  | nil => exact readText_of_single fun h => hc h.2
  | cons d cs =>
    have hd : d ≠ '\'' := fun h => hquote (h ▸ List.mem_cons_self)
    cases cs <;> exact readText_of_single fun h => hd h.1

end Single

section Tripled

variable {quote : Char} {escapes : Bool} {cs rest : List Char} {c : Char} {row : Nat}

/-- Behind a row of quotes. -/
def behind : Nat → TextState
  | 0 => .plain
  | count + 1 => .quotes (count + 1)

/-- A character behind a row of quotes leaves the row to the text. -/
lemma run_behind (hrow : row ≤ 2) (hc : c ≠ quote) :
    (longText quote escapes).run (behind row) (c :: rest) =
      ((longText quote escapes).run .plain (c :: rest)).map fun (read, rest) =>
        (List.replicate row quote ++ read, rest) := by
  cases row with
  | zero => simp [behind]
  | succ count =>
    have hstep : (longText quote escapes).step (.quotes (count + 1)) c =
        TextStep.after (List.replicate (count + 1) quote)
          ((longText quote escapes).step .plain c) := by
      simp only [longText, if_neg hc]
      rw [if_neg (by omega)]
    rw [behind, Scanner.run, Scanner.run, hstep]
    cases (longText quote escapes).step .plain c <;> simp [TextStep.after, Function.comp_def]

lemma step_behind (hrow : row < 2) :
    (longText quote escapes).step (behind row) quote = .go [] (behind (row + 1)) := by
  interval_cases row <;> simp [behind, longText, TextStep.ofLong]

/-- The closing quotes, behind a row of quotes that belong to the text. -/
lemma run_closing (hrow : row ≤ 2) (hc : c ≠ quote) :
    (longText quote escapes).run (behind row) (quote :: quote :: quote :: c :: rest) =
      some (List.replicate row quote, c :: rest) := by
  interval_cases row <;>
    simp [behind, Scanner.run, longText, TextStep.ofLong, hc, List.replicate]

lemma le_longestRowFrom : row ≤ longestRowFrom quote row cs := by
  induction cs generalizing row with
  | nil => exact Nat.le_refl row
  | cons d cs ih =>
    unfold longestRowFrom
    split
    · exact Nat.le_of_succ_le ih
    · exact Nat.le_max_left _ _

/-- A text in tripled double quotes, the first `row` quotes of which are behind the reader. -/
lemma run_bodyFrom (hrow : row ≤ 2) (hc : c ≠ '"') :
    (longText '"' true).run (behind row)
        (bodyFrom true row cs ++ '"' :: '"' :: '"' :: c :: rest) =
      some (List.replicate row '"' ++ cs, c :: rest) := by
  induction cs generalizing row with
  | nil => simpa [bodyFrom] using run_closing hrow hc
  | cons d cs ih =>
    unfold bodyFrom
    split
    · next h =>
      subst h
      split
      · next hlimit =>
        -- the quote joins the row
        have hlt : row < 2 := hlimit
        rw [List.cons_append, Scanner.run, step_behind hlt]
        simp [@ih (row + 1) hlt, List.replicate_succ']
      · next hlimit =>
        have hescape : (quotedText true).Passes .plain ['\\', '"'] ['"'] .plain :=
          passes_escape rfl
        rw [List.cons_append, run_behind hrow (by decide)]
        have := hescape.run_eq (@ih 0 (by omega))
        simp_all [quotedText, behind]
    · next hquote =>
      obtain ⟨first, more, hcharacter, hfirst⟩ := exists_character true hquote
      have hcharacters : (quotedText true).Passes .plain (character true d) [d] .plain :=
        passes_character hquote
      have hpasses := hcharacters.run_eq (@ih 0 (by omega))
      rw [hcharacter] at hpasses ⊢
      simp only [List.cons_append, List.append_assoc] at hpasses ⊢
      rw [run_behind hrow hfirst]
      simp_all [quotedText, behind]

/-- A text in tripled single quotes, the first `row` quotes of which are behind the reader. -/
lemma run_longLiteral (hrow : longestRowFrom quote row cs ≤ 2)
    (hplain : ∀ d ∈ cs, isPlain d = true ∨ d = '\n') (hc : c ≠ quote) :
    (longText quote false).run (behind row) (cs ++ quote :: quote :: quote :: c :: rest) =
      some (List.replicate row quote ++ cs, c :: rest) := by
  induction cs generalizing row with
  | nil =>
    have hrow : row ≤ 2 := hrow
    simpa using run_closing hrow hc
  | cons d cs ih =>
    have hcs : ∀ e ∈ cs, isPlain e = true ∨ e = '\n' :=
      fun e he => hplain e (List.mem_cons_of_mem _ he)
    unfold longestRowFrom at hrow
    split at hrow
    · next h =>
      subst h
      have hlt : row < 2 := lt_of_lt_of_le (Nat.lt_succ_self row) (le_longestRowFrom.trans hrow)
      rw [List.cons_append, Scanner.run, step_behind hlt]
      simp [ih hrow hcs, List.replicate_succ']
    · next hquote =>
      have hstep : (longText quote false).step .plain d = .go [d] .plain := by
        obtain hd | rfl := hplain d List.mem_cons_self
        · obtain ⟨hbreak, hreturn⟩ := ne_break_of_isPlain hd
          simp [longText, TextStep.ofLong, hquote, hbreak, hreturn, hd]
        · simp [longText, TextStep.ofLong, hquote]
      rw [List.cons_append, run_behind (by omega) hquote, Scanner.run, hstep]
      have := @ih 0 (by omega) hcs
      simp_all [behind]

/-- The line break behind the opening quotes is passed over, and nothing else is. -/
lemma dropLineBreak_opening {written : List Char}
    (hhead : hasLines cs = false → written.head? ≠ some '\n' ∧ written.head? ≠ some '\r') :
    dropLineBreak (opening cs ++ written) = written := by
  unfold opening
  split
  · rfl
  · next hlines =>
    have hhead := hhead (by simpa using hlines)
    rw [List.nil_append]
    unfold dropLineBreak
    split <;> simp_all

lemma head?_bodyFrom (hlines : hasLines cs = false) (more : List Char) :
    (body true cs ++ '"' :: more).head? ≠ some '\n' ∧
      (body true cs ++ '"' :: more).head? ≠ some '\r' := by
  cases cs with
  | nil => simp [body, bodyFrom]
  | cons d cs =>
    have hd : d ≠ '\n' := by
      rintro rfl
      simp [hasLines] at hlines
    unfold body bodyFrom
    split
    · simp [rowLimit]
    · unfold character
      repeat' split
      all_goals simp_all

lemma readText_longBasic (hc : c ≠ '"') :
    readText (['"', '"', '"'] ++ opening cs ++ body true cs ++ ['"', '"', '"'] ++ c :: rest) =
      some (cs, c :: rest) := by
  have hdrop : dropLineBreak (opening cs ++ (body true cs ++ '"' :: '"' :: '"' :: c :: rest)) =
      body true cs ++ '"' :: '"' :: '"' :: c :: rest :=
    dropLineBreak_opening fun hlines => head?_bodyFrom hlines _
  have hrun : (longText '"' true).run (behind 0)
      (body true cs ++ '"' :: '"' :: '"' :: c :: rest) = some (cs, c :: rest) :=
    run_bodyFrom (by omega) hc
  simp only [List.append_assoc, List.cons_append, List.nil_append, readText]
  rw [hdrop]
  exact hrun

lemma readText_longLiteral (hrow : longestRow '\'' cs ≤ 2)
    (hplain : ∀ d ∈ cs, isPlain d = true ∨ d = '\n') (hc : c ≠ '\'') :
    readText (['\'', '\'', '\''] ++ opening cs ++ cs ++ ['\'', '\'', '\''] ++ c :: rest) =
      some (cs, c :: rest) := by
  have hdrop : dropLineBreak (opening cs ++ (cs ++ '\'' :: '\'' :: '\'' :: c :: rest)) =
      cs ++ '\'' :: '\'' :: '\'' :: c :: rest := by
    refine dropLineBreak_opening fun hlines => ?_
    cases cs with
    | nil => simp
    | cons d cs =>
      obtain hd | rfl := hplain d List.mem_cons_self
      · simpa using ne_break_of_isPlain hd
      · simp [hasLines] at hlines
  have hrun : (longText '\'' false).run (behind 0)
      (cs ++ '\'' :: '\'' :: '\'' :: c :: rest) = some (cs, c :: rest) :=
    run_longLiteral hrow hplain hc
  simp only [List.append_assoc, List.cons_append, List.nil_append, readText]
  rw [hdrop]
  exact hrun

end Tripled

section Form

variable {cs : List Char} {quote : Char} {row : Nat}

lemma notMem_of_longestRowFrom (h : longestRowFrom quote row cs = 0) : quote ∉ cs := by
  induction cs generalizing row with
  | nil => exact List.not_mem_nil
  | cons d cs ih =>
    unfold longestRowFrom at h
    split at h
    · have hle : row + 1 ≤ longestRowFrom quote (row + 1) cs := le_longestRowFrom
      omega
    · next hd =>
      rw [List.mem_cons, not_or]
      exact ⟨Ne.symm hd, @ih 0 (by omega)⟩

lemma isPlain_of_not_escapes (h : cs.any needsEscape = false) :
    ∀ d ∈ cs, isPlain d = true ∨ d = '\n' := by
  intro d hd
  have := List.any_eq_false.1 h d hd
  simp only [needsEscape, Bool.and_eq_true, Bool.not_eq_true', decide_eq_true_eq, not_and,
    not_not] at this
  cases hplain : isPlain d
  · exact .inr (this hplain)
  · exact .inl rfl

lemma of_form_literal (h : form cs = .literal) : (∀ d ∈ cs, isPlain d = true) ∧ '\'' ∉ cs := by
  simp only [form] at h
  repeat' split at h
  all_goals try contradiction
  next hcond =>
  obtain ⟨hescapes, hrow, hlines⟩ := hcond
  refine ⟨fun d hd => ?_, notMem_of_longestRowFrom hrow⟩
  refine (isPlain_of_not_escapes (by simpa using hescapes) d hd).resolve_right ?_
  rintro rfl
  simp [hasLines, hd] at hlines

lemma of_form_longLiteral (h : form cs = .longLiteral) :
    (∀ d ∈ cs, isPlain d = true ∨ d = '\n') ∧ longestRow '\'' cs ≤ 2 := by
  simp only [form] at h
  repeat' split at h
  all_goals try contradiction
  next hcond => exact ⟨isPlain_of_not_escapes (by simpa using hcond.1), hcond.2⟩

end Form

/-- A text that was written is read back, and the reader stops behind it. -/
theorem readText_text (s : String) {c : Char} (rest : List Char) (hbasic : c ≠ '"')
    (hliteral : c ≠ '\'') : readText (text s ++ c :: rest) = some (s.toList, c :: rest) := by
  unfold text
  cases hform : form s.toList with
  | basic =>
    simpa [hform] using readText_basic hbasic
  | literal =>
    obtain ⟨hplain, hquote⟩ := of_form_literal hform
    simpa [hform] using readText_literal hplain hquote hliteral
  | longBasic =>
    simpa [hform] using readText_longBasic hbasic
  | longLiteral =>
    obtain ⟨hplain, hrow⟩ := of_form_longLiteral hform
    simpa [hform] using readText_longLiteral hrow hplain hliteral

end Toml
end PluginHost
