/-
# Written JSON is read back

Texts, integers, lists and records that are written are read back, at whatever level they stand.
`Reads` says of a reader and of written characters that the reader finds what was written and stops
behind it, wherever the end of the input, a comma or a new line follows; that is what follows a
written value.  A list and a record are both made of elements on lines of their own, which are read
one by one (`readList_lines`).

The reader does not go into lists and records that stand inside one another too deep, so a value is
said to be written up to a depth (`Writes`).
-/
import Mathlib.Data.List.Forall2
import PluginHost.Json.Value
import PluginHost.Json.Written
import PluginHost.Proofs.Text.Scan

namespace PluginHost.Json

open Scanner Written

/-! ## Texts -/

section Texts

variable {c : Char}

lemma hexValue?_writtenDigit {n : Nat} (hn : n < 16) : hexValue? (Written.digit n) = some n := by
  interval_cases n <;> decide

/-- An escape of one character. -/
lemma passes_escape {mark : Char} {code : Nat} (h : escape? mark = some code)
    (hmark : mark ≠ 'u') :
    textCodes.Passes .plain ['\\', mark] [code] .plain := by
  have hbegin : textCodes.step .plain '\\' = .go [] .escape := rfl
  refine .cons hbegin (passes_of_step ?_)
  simp only [textCodes, if_neg hmark, h]

/-- An escape by the code of a character. -/
lemma passes_code (hc : c.toNat < 0x20) :
    textCodes.Passes .plain
      ['\\', 'u', '0', '0', Written.digit (c.toNat / 16), Written.digit (c.toNat % 16)]
      [c.toNat] .plain := by
  have hhigh : hexValue? (Written.digit (c.toNat / 16)) = some (c.toNat / 16) :=
    hexValue?_writtenDigit (by omega)
  have hlow : hexValue? (Written.digit (c.toNat % 16)) = some (c.toNat % 16) :=
    hexValue?_writtenDigit (by omega)
  have hbegin : textCodes.step .plain '\\' = .go [] .escape := rfl
  have hmark : textCodes.step .escape 'u' = .go [] (.code 4 0) := rfl
  have hfirst : textCodes.step (.code 4 0) '0' = .go [] (.code 3 0) := rfl
  have hsecond : textCodes.step (.code 3 0) '0' = .go [] (.code 2 0) := rfl
  have hthird : textCodes.step (.code 2 0) (Written.digit (c.toNat / 16)) =
      .go [] (.code 1 (c.toNat / 16)) := by
    simp [textCodes, hhigh]
  have hlast : textCodes.step (.code 1 (c.toNat / 16)) (Written.digit (c.toNat % 16)) =
      .go [c.toNat] .plain := by
    simp [textCodes, hlow, Nat.div_add_mod']
  exact .cons hbegin (.cons hmark (.cons hfirst (.cons hsecond (.cons hthird
    (passes_of_step hlast)))))

/-- Whatever is written for a character is read as its code. -/
lemma passes_character (c : Char) :
    textCodes.Passes .plain (character c) [c.toNat] .plain := by
  unfold character
  split_ifs with hquote hbackslash hback hfeed hline hreturn htab hcontrol
  · subst hquote
    exact passes_escape rfl (by decide)
  · subst hbackslash
    exact passes_escape rfl (by decide)
  · subst hback
    exact passes_escape rfl (by decide)
  · subst hfeed
    exact passes_escape rfl (by decide)
  · subst hline
    exact passes_escape rfl (by decide)
  · subst hreturn
    exact passes_escape rfl (by decide)
  · subst htab
    exact passes_escape rfl (by decide)
  · exact passes_code hcontrol
  · refine passes_of_step ?_
    simp only [textCodes, if_neg hquote, if_neg hbackslash, if_neg hcontrol]

lemma passes_characters (cs : List Char) :
    textCodes.Passes .plain (cs.flatMap character) (cs.map Char.toNat) .plain := by
  induction cs with
  | nil =>
    intro rest
    simp
  | cons c cs ih => exact (passes_character c).trans ih

lemma joinCodes_map (cs : List Char) : joinCodes (cs.map Char.toNat) = some cs := by
  induction cs with
  | nil => rfl
  | cons c cs ih =>
    have hwhole : ¬ (0xD800 ≤ c.toNat ∧ c.toNat ≤ 0xDBFF) := by
      have := Utf8.toNat_valid c
      omega
    cases cs with
    | nil => simp [joinCodes, charOfCode?_toNat]
    | cons d cs =>
      rw [List.map_cons] at ih
      simp only [List.map_cons, joinCodes, if_neg hwhole, charOfCode?_toNat]
      rw [ih, Option.map_some]

/-- A text is read back, with all its characters. -/
lemma readText_quoted (s : String) (rest : List Char) :
    readText (s.toList.flatMap character ++ '"' :: rest) = some (some s, rest) := by
  have hclose : textCodes.run .plain ('"' :: rest) = some ([], rest) := rfl
  rw [readText, (passes_characters s.toList).run_eq hclose, List.append_nil, Option.map_some]
  dsimp only
  rw [joinCodes_map, Option.map_some, String.ofList_toList]

end Texts

/-! ## Integers -/

/-- What can follow a written value: nothing, a comma or a new line. -/
def Ends (rest : List Char) : Prop := ∀ c ∈ rest.head?, c = ',' ∨ c = '\n'

section Integers

variable {ds rest : List Char}

lemma Ends.not_isDigit (hrest : Ends rest) : ∀ c ∈ rest.head?, c.isDigit = false := by
  intro c hc
  obtain rfl | rfl := hrest c hc
  · rfl
  · rfl

lemma takeWhile_digits (hdigits : ∀ c ∈ ds, c.isDigit = true)
    (hrest : ∀ c ∈ rest.head?, c.isDigit = false) :
    (ds ++ rest).takeWhile Char.isDigit = ds ∧ (ds ++ rest).dropWhile Char.isDigit = rest := by
  rw [List.takeWhile_append_of_pos hdigits, List.dropWhile_append_of_pos hdigits]
  cases rest with
  | nil => simp
  | cons c rest => simp [hrest c rfl]

lemma readDigits_append (hdigits : ∀ c ∈ ds, c.isDigit = true) (hne : ds ≠ [])
    (hrest : ∀ c ∈ rest.head?, c.isDigit = false) :
    readDigits (ds ++ rest) = some (ds, rest) := by
  obtain ⟨htake, hdrop⟩ := takeWhile_digits hdigits hrest
  rw [readDigits, htake, hdrop, if_neg hne]

/-- The digits of a number are read as such, since only zero begins with a zero. -/
lemma readWhole_toDigits (n : Nat) (hrest : ∀ c ∈ rest.head?, c.isDigit = false) :
    readWhole (Nat.toDigits 10 n ++ rest) = some (Nat.toDigits 10 n, rest) := by
  have hdigits : ∀ c ∈ Nat.toDigits 10 n, c.isDigit = true := fun c hc =>
    Nat.isDigit_of_mem_toDigits (by decide) (by decide) hc
  unfold readWhole
  split
  · next more heq =>
    have hzero : n = 0 := by
      refine head?_toDigits ?_
      obtain ⟨d, ds, hds⟩ := List.exists_cons_of_ne_nil (Nat.toDigits_ne_nil (n := n) (b := 10))
      rw [hds] at heq ⊢
      rw [(List.cons.inj heq).1]
      rfl
    subst hzero
    rw [← (List.cons.inj heq).2]
    rfl
  · exact readDigits_append hdigits Nat.toDigits_ne_nil hrest

lemma readFraction_of_ends (hrest : Ends rest) : readFraction rest = some (false, rest) := by
  cases rest with
  | nil => rfl
  | cons c rest =>
    obtain rfl | rfl := hrest c rfl
    · rfl
    · rfl

lemma wholeValue_toDigits (n : Nat) : wholeValue (Nat.toDigits 10 n) = n := by
  simp only [wholeValue, Nat.mul_comm _ 10]
  exact Nat.ofDigitChars_ten_toDigits

lemma readMagnitude_toDigits {negative : Bool} {n : Nat} (hminus : negative = true → n ≠ 0)
    (hrest : Ends rest) :
    readMagnitude negative (Nat.toDigits 10 n ++ rest) =
      some (some (if negative then -(n : Int) else n), rest) := by
  have hexact : ¬ (false = true ∨ (negative = true ∧ n = 0)) := by
    rintro (hfalse | ⟨hnegative, hzero⟩)
    · cases hfalse
    · exact hminus hnegative hzero
  rw [readMagnitude, readWhole_toDigits n hrest.not_isDigit]
  dsimp only
  rw [readFraction_of_ends hrest, Option.map_some]
  dsimp only
  rw [wholeValue_toDigits, if_neg hexact]

/-- An integer is read back, whatever its sign. -/
lemma readNumber_integer (n : Int) (level : Nat) (hrest : Ends rest) :
    readNumber (integer n level ++ rest) = some (some n, rest) := by
  by_cases hn : n < 0
  · have hwritten : integer n level = '-' :: Nat.toDigits 10 n.natAbs := by
      rw [integer, if_pos hn]
      rfl
    have habs : -(n.natAbs : Int) = n := by omega
    rw [hwritten, List.cons_append, readNumber,
      readMagnitude_toDigits (fun _ => by omega) hrest, if_pos rfl, habs]
  · have hwritten : integer n level = Nat.toDigits 10 n.natAbs := by
      rw [integer, if_neg hn]
      rfl
    have habs : (n.natAbs : Int) = n := by omega
    rw [hwritten]
    unfold readNumber
    split
    · next more heq =>
      -- no digit is a minus
      obtain ⟨d, ds, hds⟩ :=
        List.exists_cons_of_ne_nil (Nat.toDigits_ne_nil (n := n.natAbs) (b := 10))
      have hd := toDigits_digit (n := n.natAbs) (c := d) (by rw [hds]; exact List.mem_cons_self)
      rw [hds] at heq
      rw [(List.cons.inj heq).1] at hd
      exact absurd hd (by decide)
    · rw [readMagnitude_toDigits (fun hminus => absurd hminus Bool.false_ne_true) hrest,
        if_neg Bool.false_ne_true, habs]

end Integers

/-! ## White space -/

/-- A written value can begin with this: it is not white space, and closes nothing. -/
def opens (c : Char) : Bool := !([' ', '\n', '\t', '\r', ']', '\x7d'].contains c)

lemma skipSpace_cons {c : Char} (hc : opens c = true) (cs : List Char) :
    skipSpace (c :: cs) = c :: cs := by
  have hblank : ¬ (c = ' ' ∨ c = '\n' ∨ c = '\t' ∨ c = '\r') := by
    rintro (rfl | rfl | rfl | rfl) <;> exact absurd hc (by decide)
  rw [skipSpace, List.dropWhile_cons, if_neg (by simpa using hblank)]

/-- What follows a new line and its blanks. -/
lemma skipSpace_newline (level : Nat) (cs : List Char) :
    skipSpace (newline level ++ cs) = skipSpace cs := by
  have hblank : ∀ c ∈ newline level, c = ' ' ∨ c = '\n' ∨ c = '\t' ∨ c = '\r' := by
    intro c hc
    obtain rfl | hc := List.mem_cons.1 hc
    · exact .inr (.inl rfl)
    · exact .inl (List.eq_of_mem_replicate hc)
  exact List.dropWhile_append_of_pos fun c hc => decide_eq_true (hblank c hc)

/-! ## Elements -/

section Elements

variable {α : Type} {element : Reader α} {cs rest : List Char} {a : α}

/-- The reader finds `a` in the characters of an element, and stops behind them. -/
structure Reads (element : Reader α) (cs : List Char) (a : α) : Prop where
  /-- They begin like a value. -/
  begins : ∃ c more, cs = c :: more ∧ opens c = true
  /-- They are read up to their end. -/
  read : ∀ rest, Ends rest → element (cs ++ rest) = some (a, rest)

lemma Reads.skipSpace_eq (h : Reads element cs a) (rest : List Char) :
    skipSpace (cs ++ rest) = cs ++ rest := by
  obtain ⟨c, more, rfl, hc⟩ := h.begins
  exact skipSpace_cons hc _

variable {close : Char} {level : Nat} {item : Written} {items : List Written} {values : List α}

/-- Elements on lines of their own are read one by one, up to the closing character. -/
lemma readElements_lines (hclose : close = ']' ∨ close = '\x7d') (hne : items ≠ [])
    (hreads : List.Forall₂ (fun item a => Reads element (item (level + 1)) a) items values)
    {fuel : Nat} (hfuel : items.length ≤ fuel) (rest : List Char) :
    readElements element close fuel (lines level items ++ (newline level ++ close :: rest)) =
      some (values, rest) := by
  induction hreads generalizing fuel with
  | nil => exact absurd rfl hne
  | @cons item a items values hread hreads ih =>
    obtain ⟨fuel, rfl⟩ : ∃ n, fuel = n + 1 := ⟨fuel - 1, by simp at hfuel; omega⟩
    cases hreads with
    | nil =>
      have hclosed : skipSpace (newline level ++ close :: rest) = close :: rest := by
        rw [skipSpace_newline]
        obtain rfl | rfl := hclose
        · rfl
        · rfl
      have hends : Ends (newline level ++ close :: rest) := by
        intro c hc
        cases hc
        exact .inr rfl
      rw [lines, readElements, List.append_assoc, skipSpace_newline, hread.skipSpace_eq,
        hread.read _ hends]
      dsimp only
      rw [hclosed]
      obtain rfl | rfl := hclose
      · rfl
      · rfl
    | @cons item' a' items values hread' hreads =>
      have hmore := ih (by simp) (by simpa using hfuel)
      have hends : Ends (',' :: (lines level (item' :: items) ++
          (newline level ++ close :: rest))) := by
        intro c hc
        cases hc
        exact .inl rfl
      have hcomma := skipSpace_cons (c := ',') (by decide)
        (lines level (item' :: items) ++ (newline level ++ close :: rest))
      rw [lines, readElements]
      · simp only [List.append_assoc, List.cons_append, List.nil_append, skipSpace_newline,
          hread.skipSpace_eq, hread.read _ hends, hcomma, hmore, Option.map_some]
      · simp

/-- The first element stands behind a new line, and each of the others needs at least its comma. -/
lemma exists_lines_cons (level : Nat) (item : Written) (items : List Written) :
    ∃ tail, lines level (item :: items) = newline (level + 1) ++ (item (level + 1) ++ tail) ∧
      items.length ≤ tail.length := by
  induction items generalizing item with
  | nil => exact ⟨[], by simp [lines], Nat.le_refl 0⟩
  | cons item' items ih =>
    obtain ⟨tail, hlines, hlength⟩ := ih item'
    refine ⟨',' :: lines level (item' :: items), by simp [lines], ?_⟩
    rw [hlines]
    simp only [List.length_cons, List.length_append]
    omega

/-- White space in front of the elements makes no difference. -/
lemma readElements_congr {cs cs' : List Char} (h : skipSpace cs = skipSpace cs') (fuel : Nat) :
    readElements element close fuel cs = readElements element close fuel cs' := by
  cases fuel with
  | zero => rfl
  | succ fuel => rw [readElements, readElements, h]

lemma readList_lines (hclose : close = ']' ∨ close = '\x7d') (hne : items ≠ [])
    (hreads : List.Forall₂ (fun item a => Reads element (item (level + 1)) a) items values)
    (rest : List Char) :
    readList element close (lines level items ++ (newline level ++ close :: rest)) =
      some (values, rest) := by
  have helements : ∀ fuel, items.length ≤ fuel →
      readElements element close fuel (lines level items ++ (newline level ++ close :: rest)) =
        some (values, rest) :=
    fun fuel hfuel => readElements_lines hclose hne hreads hfuel rest
  cases hreads with
  | nil => exact absurd rfl hne
  | @cons item a items values hread hreads =>
    obtain ⟨tail, hlines, hlength⟩ := exists_lines_cons level item items
    have hinside : skipSpace (lines level (item :: items) ++ (newline level ++ close :: rest)) =
        item (level + 1) ++ (tail ++ (newline level ++ close :: rest)) := by
      rw [hlines, List.append_assoc, skipSpace_newline, List.append_assoc, hread.skipSpace_eq]
    have hopen : (item (level + 1) ++ (tail ++ (newline level ++ close :: rest))).head? ≠
        some close := by
      obtain ⟨c, more, hitem, hc⟩ := hread.begins
      rw [hitem]
      rintro heq
      cases heq
      obtain rfl | rfl := hclose <;> exact absurd hc (by decide)
    have hsame : skipSpace (item (level + 1) ++ (tail ++ (newline level ++ close :: rest))) =
        skipSpace (lines level (item :: items) ++ (newline level ++ close :: rest)) := by
      rw [hinside, hread.skipSpace_eq]
    rw [readList, hinside, if_neg hopen, readElements_congr hsame]
    refine helements _ ?_
    simp only [List.length_cons, List.length_append]
    omega

end Elements

/-! ## Values -/

/-- What is written is read back as the value, at any level, by a reader that goes so deep. -/
def Writes (depth : Nat) (w : Written) (v : Value) : Prop :=
  ∀ level limit, depth ≤ limit → Reads (readValueTo limit) (w level) v

/-- A name is read back, and its value. -/
def WritesMember (depth : Nat) (m : String × Written) (v : Option String × Value) : Prop :=
  v.1 = some m.1 ∧ Writes depth m.2 v.2

section Values

variable {depth limit level : Nat} {w : Written} {v : Value}

lemma Writes.mono {depth' : Nat} (h : Writes depth w v) (hdepth : depth ≤ depth') :
    Writes depth' w v :=
  fun level limit hlimit => h level limit (hdepth.trans hlimit)

lemma writes_text (s : String) : Writes 0 (text s) (.string (some s)) := by
  intro level limit hlimit
  refine ⟨⟨'"', _, rfl, rfl⟩, fun rest hrest => ?_⟩
  have hquoted : text s level ++ rest = '"' :: (s.toList.flatMap character ++ '"' :: rest) := by
    simp [text, quoted]
  rw [hquoted, readValueTo, readText_quoted, Option.map_some]

lemma opens_digit {c : Char} (hc : 48 ≤ c.toNat ∧ c.toNat ≤ 57) : opens c = true := by
  rw [← Char.ofNat_toNat c]
  obtain ⟨hlow, hhigh⟩ := hc
  generalize c.toNat = code at *
  interval_cases code <;> decide

lemma writes_integer (n : Int) : Writes 0 (integer n) (.number (some n)) := by
  intro level limit hlimit
  have hchars : ∃ c more, integer n level = c :: more ∧
      (c = '-' ∨ (48 ≤ c.toNat ∧ c.toNat ≤ 57)) := by
    by_cases hn : n < 0
    · exact ⟨'-', _, by rw [integer, if_pos hn]; rfl, .inl rfl⟩
    · obtain ⟨d, ds, hds⟩ :=
        List.exists_cons_of_ne_nil (Nat.toDigits_ne_nil (n := n.natAbs) (b := 10))
      have hd := toDigits_digit (n := n.natAbs) (c := d) (by rw [hds]; exact List.mem_cons_self)
      exact ⟨d, ds, by rw [integer, if_neg hn, hds]; rfl, .inr hd⟩
  obtain ⟨c, more, hwritten, hc⟩ := hchars
  have hopens : opens c = true := by
    obtain rfl | hdigit := hc
    · rfl
    · exact opens_digit hdigit
  refine ⟨⟨c, more, hwritten, hopens⟩, fun rest hrest => ?_⟩
  have hread := readNumber_integer n level hrest
  -- nothing but a number begins like this
  have hne : ∀ d : Char, 57 < d.toNat ∨ d = '"' → c ≠ d := by
    rintro d hd rfl
    obtain rfl | hdigit := hc
    · exact absurd hd (by decide)
    · obtain hd | rfl := hd
      · omega
      · exact absurd hdigit (by decide)
  rw [hwritten, List.cons_append] at hread ⊢
  rw [readValueTo.eq_def]
  split
  · next heq => exact absurd (List.cons.inj heq).1 (hne _ (by decide))
  · next heq => exact absurd (List.cons.inj heq).1 (hne _ (by decide))
  · next heq => exact absurd (List.cons.inj heq).1 (hne _ (by decide))
  · next heq => exact absurd (List.cons.inj heq).1 (hne _ (by decide))
  · next heq => exact absurd (List.cons.inj heq).1 (hne _ (by decide))
  · next heq => exact absurd (List.cons.inj heq).1 (hne _ (by decide))
  · rw [hread, Option.map_some]

/-- A name and its value are read back together. -/
lemma reads_member (name : String) (h : Reads (readValueTo limit) (w level) v) :
    Reads (readMember (readValueTo limit)) (member name w level) (some name, v) := by
  refine ⟨⟨'"', _, rfl, rfl⟩, fun rest hrest => ?_⟩
  have hmember : member name w level ++ rest =
      '"' :: (name.toList.flatMap character ++ '"' :: (':' :: ' ' :: (w level ++ rest))) := by
    simp [member, quoted]
  have hcolon := skipSpace_cons (c := ':') (by decide) (' ' :: (w level ++ rest))
  have hblank : skipSpace (' ' :: (w level ++ rest)) = w level ++ rest := h.skipSpace_eq rest
  simp only [hmember, readMember, readText_quoted, hcolon, hblank, h.read rest hrest,
    Option.map_some]

/-- A list is read back, the empty one as well. -/
lemma writes_list {items : List Written} {values : List Value}
    (h : List.Forall₂ (Writes depth) items values) :
    Writes (depth + 1) (list items) (.array values) := by
  intro level limit hlimit
  obtain ⟨limit, rfl⟩ : ∃ n, limit = n + 1 := ⟨limit - 1, by omega⟩
  by_cases hne : items = []
  · subst hne
    cases h
    exact ⟨⟨'[', _, rfl, rfl⟩, fun rest hrest => rfl⟩
  · have hlist : list items level = '[' :: (lines level items ++ (newline level ++ [']'])) := by
      simp [list, hne]
    have hreads : List.Forall₂ (fun item v => Reads (readValueTo limit) (item (level + 1)) v)
        items values := h.imp fun item v hwrites => hwrites (level + 1) limit (by omega)
    rw [hlist]
    refine ⟨⟨'[', _, rfl, rfl⟩, fun rest hrest => ?_⟩
    have hread := readList_lines (.inl rfl) hne hreads rest
    simp only [List.cons_append, List.append_assoc, List.nil_append, readValueTo, hread,
      Option.map_some]

/-- A record is read back, with its names in their order. -/
lemma writes_record {members : List (String × Written)} {values : List (Option String × Value)}
    (hne : members ≠ []) (h : List.Forall₂ (WritesMember depth) members values) :
    Writes (depth + 1) (record members) (.object values) := by
  intro level limit hlimit
  obtain ⟨limit, rfl⟩ : ∃ n, limit = n + 1 := ⟨limit - 1, by omega⟩
  have hrecord : record members level = '\x7b' ::
      (lines level (members.map fun m => member m.1 m.2) ++ (newline level ++ ['\x7d'])) := by
    simp [record]
  have hreads : List.Forall₂
      (fun item v => Reads (readMember (readValueTo limit)) (item (level + 1)) v)
      (members.map fun m => member m.1 m.2) values := by
    rw [List.forall₂_map_left_iff]
    refine h.imp fun m v hmember => ?_
    obtain ⟨name, v⟩ := v
    obtain ⟨rfl, hwrites⟩ := hmember
    exact reads_member m.1 (hwrites (level + 1) limit (by omega))
  rw [hrecord]
  refine ⟨⟨'\x7b', _, rfl, rfl⟩, fun rest hrest => ?_⟩
  have hread := readList_lines (.inr rfl) (by simpa using hne) hreads rest
  simp only [List.cons_append, List.append_assoc, List.nil_append, readValueTo, hread,
    Option.map_some]

/-- A written value is read back, also from a text with a new line at its end. -/
lemma read_render (h : Writes depth w v) (hdepth : depth ≤ (w 0).length) :
    read (render w) = some v ∧ read (render w ++ "\n") = some v := by
  have hread : ∀ rest, Ends rest → skipSpace rest = [] →
      read (String.ofList (w 0 ++ rest)) = some v := by
    intro rest hrest hspace
    have hvalue := h 0 (w 0 ++ rest).length (by rw [List.length_append]; omega)
    rw [read, String.toList_ofList, hvalue.skipSpace_eq, hvalue.read rest hrest]
    dsimp only
    rw [hspace, if_pos rfl]
  constructor
  · have hempty := hread [] nofun rfl
    rwa [List.append_nil] at hempty
  · have hline := hread ['\n'] (fun c hc => .inr (Option.some.inj hc).symm) rfl
    rwa [String.ofList_append] at hline

end Values

end PluginHost.Json
