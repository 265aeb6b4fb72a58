/-
# Tables of a file

The chapters of a file, when all their values have names without dots.  They are written line by
line (`Writes.grow`).  A table under a header is put behind what there is (`enter_table`), and the
elements of a list of tables are gathered under the name of the list (`enterAll_elements`).
-/
import PluginHost.Proofs.Toml.Line

namespace PluginHost.Toml

/-- Values with names that have no dots. -/
def plainValues (pairs : Entries) : List (Path × Item) :=
  pairs.map fun (name, item) => ([name], item)

namespace Entries

variable {name : String} {item : Item} {change : Option Item → Option Item}
  {entries before pairs : Entries}

lemma alter_of_notMem (h : name ∉ entries.map Prod.fst) :
    alter name change entries = (change none).map fun item => entries ++ [(name, item)] := by
  induction entries with
  | nil => rfl
  | cons entry entries ih =>
    obtain ⟨other, item⟩ := entry
    rw [List.map_cons, List.mem_cons, not_or] at h
    rw [alter, if_neg (Ne.symm h.1), ih h.2]
    cases change none <;> rfl

/-- The last name is changed where it is. -/
lemma alter_last (h : name ∉ before.map Prod.fst) :
    alter name change (before ++ [(name, item)]) =
      (change (some item)).map fun item => before ++ [(name, item)] := by
  induction before with
  | nil => simp [alter]
  | cons entry before ih =>
    obtain ⟨other, item'⟩ := entry
    rw [List.map_cons, List.mem_cons, not_or] at h
    rw [List.cons_append, alter, if_neg (Ne.symm h.1), ih h.2]
    cases change (some item) <;> rfl

/-- Different new names are put behind the others. -/
lemma addAll_plainValues (h : ((entries ++ pairs).map Prod.fst).Nodup) :
    addAll entries (plainValues pairs) = some (entries ++ pairs) := by
  induction pairs generalizing entries with
  | nil => simp [plainValues, addAll]
  | cons pair pairs ih =>
    obtain ⟨name, item⟩ := pair
    have hnew : name ∉ entries.map Prod.fst := by
      rw [List.map_append, List.map_cons] at h
      intro hmem
      exact (List.nodup_append.1 h).2.2 name hmem name List.mem_cons_self rfl
    have hadd : add item [name] entries = some (entries ++ [(name, item)]) := by
      rw [add, alter_of_notMem hnew]
      rfl
    have hrest := @ih (entries ++ [(name, item)]) (by simpa using h)
    rw [plainValues, List.map_cons, addAll, hadd]
    simpa [plainValues] using hrest

end Entries

section Writes

variable {cs cs' : List Char} {header : Header} {pairs : Entries}

/-- A chapter begins with its header. -/
lemma writes_header (h : Writes cs [.header header]) :
    Writes cs (Chapter.statements ⟨header, plainValues []⟩) := h

/-- A chapter goes on with further lines. -/
lemma Writes.grow (h : Writes cs (Chapter.statements ⟨header, plainValues pairs⟩))
    {more : Entries}
    (hmore : Writes cs' (more.map fun (name, item) => Statement.entry [name] item)) :
    Writes (cs ++ cs') (Chapter.statements ⟨header, plainValues (pairs ++ more)⟩) := by
  have happend := h.append hmore
  simpa [Chapter.statements, plainValues, Function.comp_def] using happend

lemma Writes.entry (h : Writes cs (Chapter.statements ⟨header, plainValues pairs⟩)) {item : Item}
    {value : List Char} (name : String) (hname : IsName name) (hvalue : Stands value item) :
    Writes (cs ++ Written.entry name value)
      (Chapter.statements ⟨header, plainValues (pairs ++ [(name, item)])⟩) := by
  have hmore : Writes (Written.entry name value)
      ([(name, item)].map fun (name, item) => Statement.entry [name] item) :=
    writes_entry name hname hvalue
  exact h.grow hmore

end Writes

namespace Document

variable {name inside : String} {entries inner pairs : Entries} {elements : List Entries}

/-- The chapter of a table. -/
def tableChapter (name : String) (pairs : Entries) : Chapter := ⟨.table [name], plainValues pairs⟩

/-- The chapter of one more element of a list inside a table. -/
def elementChapter (name inside : String) (pairs : Entries) : Chapter :=
  ⟨.element [name, inside], plainValues pairs⟩

/-- A table is put behind the others. -/
lemma enter_table (name : String) (entries pairs : Entries)
    (hnew : name ∉ entries.map Prod.fst) (hpairs : (pairs.map Prod.fst).Nodup) :
    enter entries (tableChapter name pairs) =
      some (entries ++ [(name, .table .headed pairs)]) := by
  have hadd : Entries.addAll [] (plainValues pairs) = some pairs :=
    Entries.addAll_plainValues (by simpa using hpairs)
  simp [enter, tableChapter, Entries.alterAt, Entries.alter_of_notMem hnew, Entries.openTable, hadd]

/-- The first element of a list brings the list about. -/
lemma enter_element (hnew : name ∉ entries.map Prod.fst) (hinside : inside ∉ inner.map Prod.fst)
    (hpairs : (pairs.map Prod.fst).Nodup) :
    enter (entries ++ [(name, .table .headed inner)]) (elementChapter name inside pairs) =
      some (entries ++ [(name, .table .headed (inner ++ [(inside, .tables [pairs])]))]) := by
  have hadd : Entries.addAll [] (plainValues pairs) = some pairs :=
    Entries.addAll_plainValues (by simpa using hpairs)
  simp [enter, elementChapter, Entries.alterAt, Entries.alter_last hnew,
    Entries.alter_of_notMem hinside, Entries.openElement, hadd]

/-- Further elements are put behind the first ones. -/
lemma enter_elements (hnew : name ∉ entries.map Prod.fst) (hinside : inside ∉ inner.map Prod.fst)
    (hpairs : (pairs.map Prod.fst).Nodup) :
    enter (entries ++ [(name, .table .headed (inner ++ [(inside, .tables elements)]))])
        (elementChapter name inside pairs) =
      some (entries ++
        [(name, .table .headed (inner ++ [(inside, .tables (elements ++ [pairs]))]))]) := by
  have hadd : Entries.addAll [] (plainValues pairs) = some pairs :=
    Entries.addAll_plainValues (by simpa using hpairs)
  simp [enter, elementChapter, Entries.alterAt, Entries.alter_last hnew,
    Entries.alter_last hinside, Entries.openElement, hadd]

lemma enterAll_append (book book' : List Chapter) :
    enterAll entries (book ++ book') =
      (enterAll entries book).bind fun entries => enterAll entries book' := by
  induction book generalizing entries with
  | nil => rfl
  | cons chapter book ih =>
    rw [List.cons_append, enterAll, enterAll]
    split
    · rfl
    · exact ih

/-- All elements of a list. -/
lemma enterAll_elements (hnew : name ∉ entries.map Prod.fst)
    (hinside : inside ∉ inner.map Prod.fst) {all : List Entries}
    (hall : ∀ pairs ∈ all, (pairs.map Prod.fst).Nodup) (hne : all ≠ []) :
    enterAll (entries ++ [(name, .table .headed inner)]) (all.map (elementChapter name inside)) =
      some (entries ++ [(name, .table .headed (inner ++ [(inside, .tables all)]))]) := by
  have hmore : ∀ {more elements : List Entries}, (∀ pairs ∈ more, (pairs.map Prod.fst).Nodup) →
      enterAll (entries ++ [(name, .table .headed (inner ++ [(inside, .tables elements)]))])
          (more.map (elementChapter name inside)) =
        some (entries ++
          [(name, .table .headed (inner ++ [(inside, .tables (elements ++ more))]))]) := by
    intro more
    induction more with
    | nil => simp [enterAll]
    | cons pairs more ih =>
      intro elements hmore
      rw [List.map_cons, enterAll,
        enter_elements hnew hinside (hmore pairs List.mem_cons_self)]
      have hlater := @ih (elements ++ [pairs])
        fun pairs hpairs => hmore pairs (List.mem_cons_of_mem _ hpairs)
      simpa using hlater
  obtain ⟨first, more, rfl⟩ := List.exists_cons_of_ne_nil hne
  rw [List.map_cons, enterAll, enter_element hnew hinside (hall first List.mem_cons_self)]
  exact hmore fun pairs hpairs => hall pairs (List.mem_cons_of_mem _ hpairs)

end Document

end PluginHost.Toml
