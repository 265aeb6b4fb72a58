/-
# Configurations read back

A configuration that is written is read back as an equal one, whatever texts stand in it and
however many plugins it lists, provided that each of its numbers is read back as an equal number
(`Config.parse_render`).  The text consists of chapters (`Config.book`), the tables of which fit the
shapes of the parts of a configuration.
-/
import PluginHost.Config.Reading
import PluginHost.Config.Written
import PluginHost.Proofs.Toml.Chapter

namespace PluginHost

open Toml Document

/-! ## Single values -/

namespace Binary32

/-- The number that the characters of a number are read as, if they are those of one. -/
def readBack? (x : Binary32) : Option Binary32 := (scalar? (Written.number x)).bind Shape.number

/-- Whether a number is read back from its own characters as an equal one. -/
def ReadsBack (x : Binary32) : Prop := ∃ y, x.readBack? = some y ∧ x.numEq y = true

/-- The value that the characters of a number are read as. -/
def item (x : Binary32) : Item := (scalar? (Written.number x)).getD .illegible

lemma stands_item {x y : Binary32} (h : x.readBack? = some y) :
    Stands (Written.number x) x.item ∧ Shape.number x.item = some y := by
  obtain ⟨item, hitem, hnumber⟩ := Option.bind_eq_some_iff.1 h
  rw [Binary32.item, hitem]
  exact ⟨stands_number hitem, hnumber⟩

end Binary32

lemma shape_integer (n : Int32) : Shape.integer (.integer n.toInt) = some n := by
  have hrange : Int32.minValue.toInt ≤ n.toInt ∧ n.toInt ≤ Int32.maxValue.toInt :=
    ⟨n.minValue_le_toInt, n.toInt_le⟩
  rw [Shape.integer, Shape.between, if_pos hrange, Option.map_some, Int32.ofInt_toInt]

lemma shape_word (n : UInt32) : Shape.word (.integer n.toNat) = some n := by
  have hlt := n.toNat_lt_size
  have hrange : (0 : Int) ≤ n.toNat ∧ (n.toNat : Int) ≤ UInt32.size - 1 := by omega
  rw [Shape.word, Shape.between, if_pos hrange, Option.map_some, Int.toNat_natCast,
    UInt32.ofNat_toNat]

/-- What a table says under a name is read from the value that stands there. -/
lemma Toml.Record.field_named {α : Type} {entries : Entries} {name : String} {item : Item}
    (h : entries.get? name = some item) (place : Nat) (shape : Shape α) (fallback : Option α) :
    (named entries).field place name shape fallback = shape item := by
  rw [field, get?, h]

/-! ## Plugins -/

namespace RegisteredPlugin

/-- The table of a listed plugin. -/
def entries (plugin : RegisteredPlugin) : Entries :=
  [("id", .integer plugin.id.toNat)] ++ [("name", .string plugin.name)]
    ++ (match plugin.version with
      | none => []
      | some version => [("version", .string version)])
    ++ [("enabled", .boolean plugin.enabled)]

lemma nodup_entries (plugin : RegisteredPlugin) : (plugin.entries.map Prod.fst).Nodup := by
  cases h : plugin.version <;> simp [entries, h]

lemma ofItem?_entries (plugin : RegisteredPlugin) :
    ofItem? (.table .headed plugin.entries) = some plugin := by
  obtain ⟨id, name, version, enabled⟩ := plugin
  cases version <;>
    simp [ofItem?, entries, Record.ofItem?, Record.field, Record.get?, Entries.get?,
      List.lookup_cons, shape_word, Shape.text, Shape.flag, Shape.present]

lemma writes (plugin : RegisteredPlugin) :
    Writes plugin.written (elementChapter "plugins" "registered" plugin.entries).statements := by
  have hheader : Writes "\n[[plugins.registered]]\n".toList
      [.header (.element ["plugins", "registered"])] := by
    simpa using writes_element "plugins" "registered" (by decide) (by decide)
  have hversion : Writes
      (match plugin.version with
        | none => []
        | some version => Written.entry "version" (Written.text version))
      ((match plugin.version with
        | none => []
        | some version => [("version", Item.string version)]).map
          fun (name, item) => Statement.entry [name] item) := by
    cases plugin.version with
    | none => exact writes_nil
    | some version => exact writes_entry "version" (by decide) (stands_text version)
  have hfront := ((writes_header hheader).entry "id" (by decide)
    (stands_integer plugin.id.toNat)).entry "name" (by decide) (stands_text plugin.name)
  exact (hfront.grow hversion).entry "enabled" (by decide) (stands_flag plugin.enabled)

end RegisteredPlugin

namespace PluginsConfig

/-- The table of what is said about plugins, in front of the list of plugins. -/
def entries (plugins : PluginsConfig) : Entries :=
  [("enabled", .boolean plugins.enabled)]
    ++ (match plugins.registered with
      | [] => [("registered", .array [])]
      | _ => [])

/-- The chapters about plugins. -/
def book (plugins : PluginsConfig) : List Chapter :=
  tableChapter "plugins" plugins.entries ::
    (plugins.registered.map RegisteredPlugin.entries).map (elementChapter "plugins" "registered")

/-- The table of what is said about plugins. -/
def item (plugins : PluginsConfig) : Item :=
  .table .headed [("enabled", .boolean plugins.enabled),
    ("registered", match plugins.registered with
      | [] => .array []
      | registered => .tables (registered.map RegisteredPlugin.entries))]

lemma ofItem?_item (plugins : PluginsConfig) : ofItem? plugins.item = some plugins := by
  obtain ⟨enabled, registered⟩ := plugins
  have hlist : Shape.list RegisteredPlugin.ofItem?
      (match registered with
        | [] => .array []
        | registered => .tables (registered.map RegisteredPlugin.entries)) = some registered := by
    cases registered with
    | nil => rfl
    | cons first more =>
      have hall : ∀ all : List RegisteredPlugin,
          (all.map fun plugin => Item.table .headed plugin.entries).mapM RegisteredPlugin.ofItem? =
            some all := by
        intro all
        induction all with
        | nil => rfl
        | cons plugin all ih => simp [RegisteredPlugin.ofItem?_entries, ih]
      simpa [Shape.list, Shape.elements?, Function.comp_def] using hall (first :: more)
  simp [ofItem?, item, Record.ofItem?, Record.field, Record.get?, Entries.get?, List.lookup_cons,
    Shape.flag, hlist]

lemma writes (plugins : PluginsConfig) :
    Writes plugins.written (plugins.book.flatMap Chapter.statements) := by
  have hheader : Writes "[plugins]\n".toList [.header (.table ["plugins"])] := by
    simpa using writes_table "plugins" (by decide)
  have hfront := (writes_header hheader).entry "enabled" (by decide)
    (stands_flag plugins.enabled)
  obtain ⟨enabled, registered⟩ := plugins
  cases registered with
  | nil =>
    have hchapter := hfront.entry "registered" (by decide) stands_empty
    simp only [book, List.map_nil, List.flatMap_cons, List.flatMap_nil, List.append_nil]
    exact hchapter
  | cons first more =>
    have hall : ∀ all : List RegisteredPlugin, Writes (all.flatMap RegisteredPlugin.written)
        ((all.map fun plugin => elementChapter "plugins" "registered" plugin.entries).flatMap
          Chapter.statements) := by
      intro all
      induction all with
      | nil => exact writes_nil
      | cons plugin all ih => simpa using plugin.writes.append ih
    have hchapter := hfront.append (hall (first :: more))
    rw [book, List.flatMap_cons, List.map_map]
    exact hchapter

lemma enterAll_book (plugins : PluginsConfig) {before : Entries}
    (hnew : "plugins" ∉ before.map Prod.fst) (rest : List Chapter) :
    enterAll before (plugins.book ++ rest) =
      enterAll (before ++ [("plugins", plugins.item)]) rest := by
  obtain ⟨enabled, registered⟩ := plugins
  cases registered with
  | nil =>
    have htable := enter_table "plugins" before (entries ⟨enabled, []⟩) hnew (by simp [entries])
    rw [book, List.cons_append, enterAll, htable]
    simp [item, entries]
  | cons first more =>
    have htable := enter_table "plugins" before (entries ⟨enabled, first :: more⟩) hnew
      (by simp [entries])
    have hinside : "registered" ∉ (entries ⟨enabled, first :: more⟩).map Prod.fst := by
      simp [entries]
    have hnodup : ∀ pairs ∈ (first :: more).map RegisteredPlugin.entries,
        (pairs.map Prod.fst).Nodup := by
      simpa using ⟨first.nodup_entries, fun plugin _ => plugin.nodup_entries⟩
    have hall := enterAll_elements hnew hinside hnodup (by simp)
    rw [book, List.cons_append, enterAll, htable]
    simp only [enterAll_append, hall, Option.bind_some]
    simp [item, entries]

end PluginsConfig

/-! ## Sound -/

namespace AudioConfig

/-- The numbers in what is said about sound. -/
def numbers (audio : AudioConfig) : List Binary32 :=
  [audio.vadMin, audio.vadMax, audio.minDistance, audio.maxDistance, audio.bloom,
    audio.maxDistanceVolume]

/-- The same with other numbers. -/
def mapNumbers (f : Binary32 → Binary32) (audio : AudioConfig) : AudioConfig :=
  { audio with
    vadMin := f audio.vadMin
    vadMax := f audio.vadMax
    minDistance := f audio.minDistance
    maxDistance := f audio.maxDistance
    bloom := f audio.bloom
    maxDistanceVolume := f audio.maxDistanceVolume }

/-- The table of what is said about sound. -/
def entries (audio : AudioConfig) : Entries :=
  [("voice_hold", .integer audio.voiceHold.toInt)] ++ [("vad_min", audio.vadMin.item)]
    ++ [("vad_max", audio.vadMax.item)] ++ [("min_distance", audio.minDistance.item)]
    ++ [("max_distance", audio.maxDistance.item)] ++ [("bloom", audio.bloom.item)]
    ++ [("max_distance_volume", audio.maxDistanceVolume.item)]
    ++ [("transmit", .string audio.transmit.name)]
    ++ [("noise_cancel_strength", .integer audio.noiseCancelStrength.toInt)]
    ++ (match audio.noiseSuppress with
      | none => []
      | some strength => [("noise_suppress", .integer strength.toInt)])

lemma nodup_entries (audio : AudioConfig) : (audio.entries.map Prod.fst).Nodup := by
  cases h : audio.noiseSuppress <;> simp [entries, h]

variable {audio : AudioConfig} {f : Binary32 → Binary32}

lemma writes (h : ∀ x ∈ audio.numbers, x.readBack? = some (f x)) :
    Writes audio.written (tableChapter "audio" audio.entries).statements := by
  have hheader : Writes "[audio]\n".toList [.header (.table ["audio"])] := by
    simpa using writes_table "audio" (by decide)
  have hnumber : ∀ x ∈ audio.numbers, Stands (Written.number x) x.item :=
    fun x hx => (Binary32.stands_item (h x hx)).1
  have hsuppress : Writes
      (match audio.noiseSuppress with
        | none => []
        | some strength => Written.entry "noise_suppress" (Written.integer strength.toInt))
      ((match audio.noiseSuppress with
        | none => []
        | some strength => [("noise_suppress", Item.integer strength.toInt)]).map
          fun (name, item) => Statement.entry [name] item) := by
    cases audio.noiseSuppress with
    | none => exact writes_nil
    | some strength =>
      exact writes_entry "noise_suppress" (by decide) (stands_integer strength.toInt)
  have hhold := (writes_header hheader).entry "voice_hold" (by decide)
    (stands_integer audio.voiceHold.toInt)
  have hlevels := (hhold.entry "vad_min" (by decide)
    (hnumber audio.vadMin (by simp [numbers]))).entry "vad_max" (by decide)
    (hnumber audio.vadMax (by simp [numbers]))
  have hdistances := (hlevels.entry "min_distance" (by decide)
    (hnumber audio.minDistance (by simp [numbers]))).entry "max_distance" (by decide)
    (hnumber audio.maxDistance (by simp [numbers]))
  have hvolumes := (hdistances.entry "bloom" (by decide)
    (hnumber audio.bloom (by simp [numbers]))).entry "max_distance_volume" (by decide)
    (hnumber audio.maxDistanceVolume (by simp [numbers]))
  have hrest := (hvolumes.entry "transmit" (by decide)
    (stands_text audio.transmit.name)).entry "noise_cancel_strength" (by decide)
    (stands_integer audio.noiseCancelStrength.toInt)
  exact hrest.grow hsuppress

/-- The names of the table are those of the record. -/
lemma record_entries (audio : AudioConfig) : Record.ofItem? ["voice_hold", "vad_min", "vad_max",
    "min_distance", "max_distance", "bloom", "max_distance_volume", "transmit",
    "noise_cancel_strength", "noise_suppress"] (.table .headed audio.entries) =
      some (.named audio.entries) := by
  cases hsuppress : audio.noiseSuppress <;> simp [Record.ofItem?, entries, hsuppress]

/-- A strength that is not there is read as none. -/
lemma field_noiseSuppress (audio : AudioConfig) :
    (Record.named audio.entries).field 9 "noise_suppress" (Shape.present Shape.integer)
      (some default.noiseSuppress) = some audio.noiseSuppress := by
  cases hsuppress : audio.noiseSuppress with
  | none =>
    have hget : audio.entries.get? "noise_suppress" = none := by
      simp [entries, hsuppress, Entries.get?, List.lookup_cons]
    rw [Record.field, Record.get?, hget]
    rfl
  | some strength =>
    have hget : audio.entries.get? "noise_suppress" = some (.integer strength.toInt) := by
      simp [entries, hsuppress, Entries.get?, List.lookup_cons]
    rw [Record.field_named hget]
    simp [Shape.present, shape_integer]

/-- The table is read as the sound with the numbers that are read back. -/
lemma ofItem?_entries (h : ∀ x ∈ audio.numbers, x.readBack? = some (f x)) :
    ofItem? (.table .headed audio.entries) = some (audio.mapNumbers f) := by
  have hread : ∀ x ∈ audio.numbers, Shape.number x.item = some (f x) :=
    fun x hx => (Binary32.stands_item (h x hx)).2
  have hfield : ∀ {α : Type} (name : String) {item : Item}, audio.entries.get? name = some item →
      ∀ (place : Nat) (shape : Shape α) (fallback : Option α),
        (Record.named audio.entries).field place name shape fallback = shape item :=
    fun _ => Record.field_named
  simp only [ofItem?, record_entries, field_noiseSuppress, Option.bind_eq_bind,
    Option.bind_some, hfield "voice_hold" rfl, hfield "vad_min" rfl, hfield "vad_max" rfl,
    hfield "min_distance" rfl, hfield "max_distance" rfl, hfield "bloom" rfl,
    hfield "max_distance_volume" rfl, hfield "transmit" rfl,
    hfield "noise_cancel_strength" rfl, shape_integer, hread audio.vadMin (by simp [numbers]),
    hread audio.vadMax (by simp [numbers]), hread audio.minDistance (by simp [numbers]),
    hread audio.maxDistance (by simp [numbers]), hread audio.bloom (by simp [numbers]),
    hread audio.maxDistanceVolume (by simp [numbers]), Shape.choice,
    TransmissionMode.ofName?_name]
  rfl

/-- Equal numbers make equal sound. -/
lemma sameAs_mapNumbers (h : ∀ x ∈ audio.numbers, x.numEq (f x) = true) :
    audio.sameAs (audio.mapNumbers f) = true := by
  simp only [numbers, List.forall_mem_cons] at h
  simp [sameAs, mapNumbers, h]

end AudioConfig

/-! ## Configurations -/

namespace Config

/-- The table of what is said about diagnostics. -/
def levelEntries (config : Config) : Entries := [("level", .string config.level)]

/-- The chapters of a configuration. -/
def book (config : Config) : List Chapter :=
  tableChapter "logging" config.levelEntries ::
    (config.plugins.book ++ [tableChapter "audio" config.audio.entries])

variable {config : Config} {f : Binary32 → Binary32}

/-- The text of a configuration is that of its chapters. -/
lemma read_render (h : ∀ x ∈ config.audio.numbers, x.readBack? = some (f x)) :
    Document.read config.render = enterAll [] config.book := by
  have hheader : Writes "[logging]\n".toList [.header (.table ["logging"])] := by
    simpa using writes_table "logging" (by decide)
  have hlevel := (writes_header hheader).entry "level" (by decide)
    (stands_text config.level)
  have hwrites := (((hlevel.append writes_newline).append config.plugins.writes).append
    writes_newline).append (AudioConfig.writes h)
  have hbook : config.book.flatMap Chapter.statements =
      (tableChapter "logging" config.levelEntries).statements ++ []
        ++ config.plugins.book.flatMap Chapter.statements ++ []
        ++ (tableChapter "audio" config.audio.entries).statements := by
    simp [book]
  refine read_of_writes ?_ ?_
  · rw [hbook]
    exact hwrites
  · simp [dropMark]

/-- The tables of a configuration. -/
lemma enterAll_book (config : Config) : enterAll [] config.book =
    some [("logging", .table .headed config.levelEntries), ("plugins", config.plugins.item),
      ("audio", .table .headed config.audio.entries)] := by
  have hlevel := enter_table "logging" [] config.levelEntries (by simp) (by simp [levelEntries])
  have haudio := enter_table "audio"
    [("logging", .table .headed config.levelEntries), ("plugins", config.plugins.item)]
    config.audio.entries (by simp) config.audio.nodup_entries
  rw [book, enterAll, hlevel]
  simp only [List.nil_append]
  rw [PluginsConfig.enterAll_book _ (by simp)]
  simp only [List.cons_append, List.nil_append] at haudio ⊢
  simp only [enterAll, haudio]

/-- A configuration that was written is read back with what each of its numbers is read back as. -/
lemma parse_of_readBack (h : ∀ x ∈ config.audio.numbers, x.readBack? = some (f x)) :
    parse config.render = some { config with audio := config.audio.mapNumbers f } := by
  have hlevel : levelOfItem? (.table .headed config.levelEntries) = some config.level := by
    simp [levelOfItem?, levelEntries, Record.ofItem?, Record.field, Record.get?, Entries.get?,
      Shape.text]
  rw [parse, read_render h, enterAll_book]
  simp [ofItem?, Record.ofItem?, Record.field, Record.get?, Entries.get?, List.lookup_cons, hlevel,
    PluginsConfig.ofItem?_item, AudioConfig.ofItem?_entries h]

/-- A configuration that was written is read back as an equal one, if each of its numbers is. -/
theorem parse_render (config : Config) (h : ∀ x ∈ config.audio.numbers, x.ReadsBack) :
    ∃ config', parse config.render = some config' ∧ config.sameAs config' = true := by
  have hread : ∀ x ∈ config.audio.numbers, x.readBack? = some (x.readBack?.getD x) ∧
      x.numEq (x.readBack?.getD x) = true := by
    intro x hx
    obtain ⟨y, hread, hequal⟩ := h x hx
    simp [hread, hequal]
  refine ⟨_, parse_of_readBack fun x hx => (hread x hx).1, ?_⟩
  simp [sameAs, AudioConfig.sameAs_mapNumbers fun x hx => (hread x hx).2]

/-- A configuration with texts that need quotes of every kind. -/
def quoted : Config where
  level := "a \"level\" of C:\\"
  plugins :=
    { enabled := false
      registered :=
        [⟨7, "it's\n\"\"\"quoted\"\"\"", some "\x00\r\x7f", true⟩, ⟨7, "", none, false⟩] }
  audio := { AudioConfig.default with noiseSuppress := some (-2147483648) }

/-- Each number of it is read back, and so is all of it. -/
theorem parse_render_quoted : (∀ x ∈ quoted.audio.numbers, x.ReadsBack) ∧
    ∃ config', parse quoted.render = some config' ∧ quoted.sameAs config' = true := by
  have hnumbers : ∀ x ∈ quoted.audio.numbers, x.readBack? = some x ∧ x.numEq x = true := by
    decide +kernel
  have hreads : ∀ x ∈ quoted.audio.numbers, x.ReadsBack := fun x hx => ⟨x, hnumbers x hx⟩
  exact ⟨hreads, parse_render quoted hreads⟩

end Config

end PluginHost
