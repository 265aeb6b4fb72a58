/-
# Lines read back

`Tells cs statements` says that the characters of a file are read as these statements, and
`Writes cs statements` that characters put in front of a file add these statements to it.  Blank
lines add nothing, and a line adds one statement, be it a name with its value or a header.  A name
is a word of letters, digits, underscores and dashes, without quotes.

Headers with the lines behind them are the chapters of a file (`read_of_writes`).
-/
import PluginHost.Proofs.Toml.Word
import PluginHost.Toml.Document

namespace PluginHost.Toml

open Written Document

/-! ## Names -/

/-- A name that needs no quotes. -/
def IsName (name : String) : Prop := name.toList ≠ [] ∧ ∀ c ∈ name.toList, isBare c = true

instance (name : String) : Decidable (IsName name) :=
  decidable_of_iff (name.toList ≠ [] ∧ name.toList.all isBare = true) (by
    rw [IsName, List.all_eq_true])

lemma skipBlanks_blank (cs : List Char) : skipBlanks (' ' :: cs) = skipBlanks cs := by
  simp [skipBlanks]

section Names

variable {name : String} {c : Char} (rest : List Char)

/-- No name begins with a character that needs quotes. -/
lemma ne_of_isName (h : IsName name) {more : List Char} (hcs : name.toList = c :: more) {d : Char}
    (hd : isBare d = false) : c ≠ d := by
  rintro rfl
  exact absurd (h.2 c (by simp [hcs])) (by simp [hd])

lemma skipBlanks_name (h : IsName name) (rest : List Char) :
    skipBlanks (name.toList ++ rest) = name.toList ++ rest := by
  obtain ⟨c, more, hcs⟩ := List.exists_cons_of_ne_nil h.1
  rw [hcs]
  exact skipBlanks_cons _ (ne_of_isName h hcs (by decide)) (ne_of_isName h hcs (by decide))

lemma readName_append (h : IsName name) (hc : isBare c = false) :
    readName (name.toList ++ c :: rest) = some (name, c :: rest) := by
  have hbare := h.2
  have htake : (name.toList ++ c :: rest).takeWhile isBare = name.toList := by
    rw [List.takeWhile_append_of_pos hbare]
    simp [hc]
  have hdrop : (name.toList ++ c :: rest).dropWhile isBare = c :: rest := by
    rw [List.dropWhile_append_of_pos hbare]
    simp [hc]
  obtain ⟨d, ds, hds⟩ := List.exists_cons_of_ne_nil h.1
  unfold readName
  split
  · next heq =>
    rw [hds] at heq
    exact absurd (List.cons.inj heq).1 (ne_of_isName h hds (by decide))
  · next heq =>
    rw [hds] at heq
    exact absurd (List.cons.inj heq).1 (ne_of_isName h hds (by decide))
  · simp [htake, hdrop, h.1]

lemma readPathRest_of_head? {cs : List Char} (limit : Nat)
    (hdot : (skipBlanks cs).head? ≠ some '.') :
    readPathRest (limit + 1) cs = some ([], skipBlanks cs) := by
  rw [readPathRest]
  split
  · next heq => exact absurd (by rw [heq]; rfl) hdot
  · rfl

/-- A path of one name, in front of something that is not a dot. -/
lemma readPath_name (h : IsName name) (hc : isBare c = false)
    (hdot : (skipBlanks (c :: rest)).head? ≠ some '.') :
    readPath (name.toList ++ c :: rest) = some ([name], skipBlanks (c :: rest)) := by
  have hrest : readPathRest maxNames (c :: rest) = some ([], skipBlanks (c :: rest)) :=
    readPathRest_of_head? 79 hdot
  simp only [readPath, readName_append rest h hc, hrest, Option.map_some]

/-- A path of two names, in front of a bracket. -/
lemma readPath_names {name' : String} (h : IsName name) (h' : IsName name') :
    readPath (name.toList ++ '.' :: (name'.toList ++ ']' :: rest)) =
      some ([name, name'], ']' :: rest) := by
  have hskip := skipBlanks_name h' (']' :: rest)
  have hbracket : skipBlanks (']' :: rest) = ']' :: rest :=
    skipBlanks_cons _ (by decide) (by decide)
  have hlast : readPathRest 79 (']' :: rest) = some ([], ']' :: rest) := by
    rw [readPathRest_of_head? 78 (by simp [hbracket]), hbracket]
  have hrest : readPathRest maxNames ('.' :: (name'.toList ++ ']' :: rest)) =
      some ([name'], ']' :: rest) := by
    rw [show maxNames = 79 + 1 from rfl, readPathRest,
      skipBlanks_cons _ (by decide) (by decide)]
    simp only [hskip, readName_append rest h' (show isBare ']' = false by decide), hlast,
      Option.map_some]
  simp only [readPath, readName_append _ h (show isBare '.' = false by decide), hrest,
    Option.map_some]

end Names

/-! ## Statements -/

/-- The characters of a file are read as these statements. -/
def Tells (cs : List Char) (statements : List Statement) : Prop :=
  ∀ fuel, statements.length < fuel → readStatements fuel cs = some statements

section Tells

variable {cs more : List Char} {statement : Statement} {statements : List Statement}

lemma tells_nil : Tells [] [] := by
  intro fuel hfuel
  cases fuel with
  | zero => omega
  | succ fuel => rfl

/-- A blank line says nothing. -/
lemma Tells.newline (h : Tells cs statements) : Tells ('\n' :: cs) statements := by
  intro fuel hfuel
  have hread := h fuel hfuel
  cases fuel with
  | zero => omega
  | succ fuel => simpa only [readStatements, skipSpace, skipSpaceFrom] using hread

/-- A line holds one statement. -/
lemma Tells.line {c : Char} (h : Tells cs statements)
    (hspace : skipSpace (c :: more ++ '\n' :: cs) = some (c :: more ++ '\n' :: cs))
    (hread : readStatement (c :: more ++ '\n' :: cs) = some (statement, '\n' :: cs)) :
    Tells (c :: more ++ '\n' :: cs) (statement :: statements) := by
  intro fuel hfuel
  cases fuel with
  | zero => omega
  | succ fuel =>
    have hrest := h.newline fuel (by simpa using hfuel)
    have hblanks : skipBlanks ('\n' :: cs) = '\n' :: cs :=
      skipBlanks_cons _ (by decide) (by decide)
    rw [readStatements, hspace]
    rw [List.cons_append] at hread ⊢
    simp [hread, hblanks, atLineEnd, hrest]

lemma skipSpace_cons {c : Char} (cs : List Char)
    (hc : c ≠ '\n' ∧ c ≠ '\r' ∧ c ≠ ' ' ∧ c ≠ '\t' ∧ c ≠ '#') :
    skipSpace (c :: cs) = some (c :: cs) := by
  obtain ⟨hbreak, hreturn, hblank, htab, hcomment⟩ := hc
  rw [skipSpace, skipSpaceFrom.eq_def]
  split <;> simp_all

/-- A line that gives a name its value. -/
lemma Tells.entry {name : String} {value : List Char} {item : Item} (h : Tells cs statements)
    (hname : IsName name) (hvalue : Stands value item) :
    Tells (Written.entry name value ++ cs) (.entry [name] item :: statements) := by
  obtain ⟨c, more, hcs⟩ := List.exists_cons_of_ne_nil hname.1
  have hne : ∀ d, isBare d = false → c ≠ d := fun d hd => ne_of_isName hname hcs hd
  have hline : Written.entry name value ++ cs =
      c :: (more ++ [' ', '=', ' '] ++ value) ++ '\n' :: cs := by
    simp [Written.entry, hcs]
  have hpath : readPath (c :: (more ++ [' ', '=', ' '] ++ value) ++ '\n' :: cs) =
      some ([name], '=' :: ' ' :: (value ++ '\n' :: cs)) := by
    have hskip : skipBlanks (' ' :: '=' :: ' ' :: (value ++ '\n' :: cs)) =
        '=' :: ' ' :: (value ++ '\n' :: cs) := by
      rw [skipBlanks_blank, skipBlanks_cons _ (by decide) (by decide)]
    have hread := readPath_name (c := ' ') ('=' :: ' ' :: (value ++ '\n' :: cs)) hname (by decide)
      (by simp [hskip])
    rw [hskip, hcs] at hread
    simpa using hread
  have hskip : skipBlanks (' ' :: (value ++ '\n' :: cs)) = value ++ '\n' :: cs := by
    rw [skipBlanks_blank, hvalue.tight cs]
  rw [hline]
  refine h.line (skipSpace_cons _ ⟨hne _ (by decide), hne _ (by decide), hne _ (by decide),
    hne _ (by decide), hne _ (by decide)⟩) ?_
  have hbracket : c ≠ '[' := hne _ (by decide)
  rw [List.cons_append] at hpath ⊢
  unfold readStatement
  split
  · simp_all
  · simp_all
  · rw [readEntry, hpath]
    simp [hskip, hvalue.read, skipBlanks_cons _ (show '=' ≠ ' ' by decide)
      (show '=' ≠ '\t' by decide)]

/-- A header of a table. -/
lemma Tells.table {name : String} (h : Tells cs statements) (hname : IsName name) :
    Tells ('[' :: (name.toList ++ [']']) ++ '\n' :: cs)
      (.header (.table [name]) :: statements) := by
  have hpath : readPath (name.toList ++ ']' :: '\n' :: cs) = some ([name], ']' :: '\n' :: cs) := by
    have hbracket : skipBlanks (']' :: '\n' :: cs) = ']' :: '\n' :: cs :=
      skipBlanks_cons _ (by decide) (by decide)
    have hread := readPath_name ('\n' :: cs) hname (show isBare ']' = false by decide)
      (by simp [hbracket])
    rwa [hbracket] at hread
  refine h.line (skipSpace_cons _ (by decide)) ?_
  rw [List.cons_append, List.append_assoc, List.singleton_append]
  have hskip := skipBlanks_name hname (']' :: '\n' :: cs)
  obtain ⟨c, more, hcs⟩ := List.exists_cons_of_ne_nil hname.1
  have hc : c ≠ '[' := ne_of_isName hname hcs (by decide)
  unfold readStatement
  split
  · next heq =>
    rw [hcs] at heq
    exact absurd (List.cons.inj (List.cons.inj heq).2).1 hc
  · next heq =>
    obtain rfl := (List.cons.inj heq).2
    rw [hskip, hpath]
    rfl
  · simp_all

/-- A header of one more table of a list. -/
lemma Tells.element {name name' : String} (h : Tells cs statements) (hname : IsName name)
    (hname' : IsName name') :
    Tells ('[' :: ('[' :: (name.toList ++ '.' :: (name'.toList ++ [']', ']']))) ++ '\n' :: cs)
      (.header (.element [name, name']) :: statements) := by
  refine h.line (skipSpace_cons _ (by decide)) ?_
  have hskip := skipBlanks_name hname ('.' :: (name'.toList ++ ']' :: ']' :: '\n' :: cs))
  have hpath := readPath_names (']' :: '\n' :: cs) hname hname'
  simp only [List.cons_append, List.append_assoc, List.nil_append, readStatement]
  rw [hskip, hpath]
  rfl

end Tells

/-- Put in front of a file these characters add these statements. -/
structure Writes (cs : List Char) (statements : List Statement) : Prop where
  /-- They are read in front of what follows. -/
  tells : ∀ rest more, Tells rest more → Tells (cs ++ rest) (statements ++ more)
  /-- Every statement has characters of its own. -/
  length_le : statements.length ≤ cs.length

section Writes

variable {cs cs' : List Char} {statements statements' : List Statement}

lemma Writes.append (h : Writes cs statements) (h' : Writes cs' statements') :
    Writes (cs ++ cs') (statements ++ statements') := by
  refine ⟨fun rest more hrest => ?_, ?_⟩
  · rw [List.append_assoc, List.append_assoc]
    exact h.tells _ _ (h'.tells _ _ hrest)
  · have := h.length_le
    have := h'.length_le
    rw [List.length_append, List.length_append]
    omega

lemma writes_nil : Writes [] [] := ⟨fun _ _ hrest => hrest, Nat.le_refl 0⟩

lemma writes_newline : Writes ['\n'] [] := ⟨fun _ _ hrest => hrest.newline, Nat.zero_le 1⟩

lemma writes_entry {value : List Char} {item : Item} (name : String) (hname : IsName name)
    (hvalue : Stands value item) : Writes (Written.entry name value) [.entry [name] item] :=
  ⟨fun _ _ hrest => hrest.entry hname hvalue, by simp [Written.entry]; omega⟩

lemma writes_table (name : String) (hname : IsName name) :
    Writes ('[' :: (name.toList ++ [']', '\n'])) [.header (.table [name])] :=
  ⟨fun _ _ hrest => by simpa using hrest.table hname, by simp⟩

lemma writes_element (name name' : String) (hname : IsName name) (hname' : IsName name') :
    Writes ('\n' :: '[' :: '[' :: (name.toList ++ '.' :: (name'.toList ++ [']', ']', '\n'])))
      [.header (.element [name, name'])] :=
  ⟨fun _ _ hrest => by simpa using (hrest.element hname hname').newline, by simp⟩

end Writes

/-- The statements of a chapter. -/
def Chapter.statements (chapter : Chapter) : List Statement :=
  .header chapter.header :: chapter.values.map fun (path, value) => .entry path value

lemma chapters_statements (book : List Chapter) :
    chapters (book.flatMap Chapter.statements) = ([], book) := by
  induction book with
  | nil => rfl
  | cons chapter book ih =>
    have hvalues : ∀ values : List (Path × Item),
        chapters (values.map (fun (path, value) => Statement.entry path value) ++
          book.flatMap Chapter.statements) = (values, book) := by
      intro values
      induction values with
      | nil => exact ih
      | cons value values ihv => simp [chapters, ihv]
    simp [Chapter.statements, chapters, hvalues]

/-- A file is read chapter by chapter. -/
lemma read_of_writes {cs : List Char} {book : List Chapter}
    (h : Writes cs (book.flatMap Chapter.statements)) (hmark : dropMark cs = cs) :
    Document.read (String.ofList cs) = enterAll [] book := by
  have hread : readStatements (cs.length + 1) cs = some (book.flatMap Chapter.statements) := by
    have htells := h.tells [] [] tells_nil
    rw [List.append_nil, List.append_nil] at htells
    exact htells _ (Nat.lt_succ_of_le h.length_le)
  rw [Document.read, String.toList_ofList, hmark, hread]
  simp [ofStatements, chapters_statements, Entries.addAll]

end PluginHost.Toml
