/-
# The listing of plugins is read back

A list of plugins is written so that whoever reads it knows the same about each of them
(`PluginInfo.read_listing`).  For each plugin there is a value that its record stands for
(`PluginInfo.value`); it is what the written record is read as, and from it the plugin is read
again.  A version that is not known has no name in the record, and is not known again because
nothing else has its name.
-/
import PluginHost.Proofs.Json.Written
import PluginHost.Registry.Listing

namespace PluginHost

open Json

/-! ## Integers -/

namespace Json.Value

lemma word?_toNat (n : UInt32) : word? (.number (some n.toNat)) = some n := by
  have hlt := n.toNat_lt_size
  have hrange : (0 : Int) ≤ n.toNat ∧ (n.toNat : Int) ≤ UInt32.size - 1 := by omega
  rw [word?, between?, if_pos hrange, Option.map_some, Int.toNat_natCast, UInt32.ofNat_toNat]

lemma integer?_toInt (n : Int32) : integer? (.number (some n.toInt)) = some n := by
  have hrange : Int32.minValue.toInt ≤ n.toInt ∧ n.toInt ≤ Int32.maxValue.toInt :=
    ⟨n.minValue_le_toInt, n.toInt_le⟩
  rw [integer?, between?, if_pos hrange, Option.map_some, Int32.ofInt_toInt]

end Json.Value

/-! ## Versions -/

namespace Version

/-- What the record of a version stands for. -/
def value (v : Version) : Value :=
  .object [(some "major", .number (some v.major.toInt)),
    (some "minor", .number (some v.minor.toInt)), (some "patch", .number (some v.patch.toInt))]

lemma writes_listed (v : Version) : Writes 1 v.listed v.value :=
  writes_record (by simp) (.cons ⟨rfl, writes_integer _⟩ (.cons ⟨rfl, writes_integer _⟩
    (.cons ⟨rfl, writes_integer _⟩ .nil)))

lemma ofJson?_value (v : Version) : Version.ofJson? v.value = some v := by
  have hfields : v.value.fields? ["major", "minor", "patch"] =
      some [some (.number (some v.major.toInt)), some (.number (some v.minor.toInt)),
        some (.number (some v.patch.toInt))] := by
    simp [value, Value.fields?]
  simp [Version.ofJson?, hfields, Value.integer?_toInt]

end Version

/-! ## Plugins -/

namespace PluginOrigin

lemma ofJson?_name (origin : PluginOrigin) :
    PluginOrigin.ofJson? (.string (some origin.name)) = some origin := ofName?_name origin

end PluginOrigin

namespace PluginInfo

/-- What the record of a plugin stands for. -/
def value (info : PluginInfo) : Value :=
  .object <|
    [(some "id", .number (some info.id.toNat)), (some "name", .string (some info.name))]
      ++ (match info.version with
        | none => []
        | some version => [(some "version", .string (some version))])
      ++ (match info.apiVersion with
        | none => []
        | some version => [(some "api_version", version.value)])
      ++ [(some "origin", .string (some info.origin.name))]

/-- The record of a plugin is read as the value that it stands for. -/
lemma writes_listed (info : PluginInfo) : Writes 2 info.listed info.value := by
  have hfirst : List.Forall₂ (WritesMember 1)
      [("id", .integer info.id.toNat), ("name", .text info.name)]
      [(some "id", .number (some info.id.toNat)), (some "name", .string (some info.name))] :=
    .cons ⟨rfl, (writes_integer _).mono (by decide)⟩
      (.cons ⟨rfl, (writes_text _).mono (by decide)⟩ .nil)
  have hversion : List.Forall₂ (WritesMember 1)
      (match info.version with
        | none => []
        | some version => [("version", .text version)])
      (match info.version with
        | none => []
        | some version => [(some "version", .string (some version))]) := by
    cases info.version with
    | none => exact .nil
    | some version => exact .cons ⟨rfl, (writes_text _).mono (by decide)⟩ .nil
  have hapi : List.Forall₂ (WritesMember 1)
      (match info.apiVersion with
        | none => []
        | some version => [("api_version", version.listed)])
      (match info.apiVersion with
        | none => []
        | some version => [(some "api_version", version.value)]) := by
    cases info.apiVersion with
    | none => exact .nil
    | some version => exact .cons ⟨rfl, version.writes_listed⟩ .nil
  have horigin : List.Forall₂ (WritesMember 1) [("origin", .text info.origin.name)]
      [(some "origin", .string (some info.origin.name))] :=
    .cons ⟨rfl, (writes_text _).mono (by decide)⟩ .nil
  exact writes_record (by simp)
    (List.rel_append (List.rel_append (List.rel_append hfirst hversion) hapi) horigin)

/-- What is found under each of the names. -/
lemma fields?_value (info : PluginInfo) :
    info.value.fields? ["id", "name", "version", "api_version", "origin"] =
      some [some (.number (some info.id.toNat)), some (.string (some info.name)),
        info.version.map fun version => .string (some version),
        info.apiVersion.map Version.value, some (.string (some info.origin.name))] := by
  obtain ⟨id, name, version, apiVersion, origin⟩ := info
  cases version <;> cases apiVersion <;> simp [value, Value.fields?]

/-- What may be missing is read back, if it is not written as nothing. -/
lemma optional?_map {α : Type} {read : Value → Option α} (write : α → Value)
    (hread : ∀ a, read (write a) = some a) (hnull : ∀ a, write a ≠ .null) (a : Option α) :
    Value.optional? read (a.map write) = some a := by
  cases a with
  | none => rfl
  | some a =>
    rw [Option.map_some, Value.optional?, hread, Option.map_some]
    intro heq
    exact hnull a heq

/-- What is known about a plugin is read from the value of its record. -/
lemma ofJson?_value (info : PluginInfo) : PluginInfo.ofJson? info.value = some info := by
  have hversion : Value.optional? Value.text?
      (info.version.map fun version => .string (some version)) = some info.version :=
    optional?_map (fun version => .string (some version)) (fun _ => rfl) (fun _ => nofun) _
  have hapi : Value.optional? Version.ofJson? (info.apiVersion.map Version.value) =
      some info.apiVersion :=
    optional?_map Version.value Version.ofJson?_value (fun _ => nofun) _
  simp [PluginInfo.ofJson?, fields?_value, Value.word?_toNat, Value.text?, hversion, hapi,
    PluginOrigin.ofJson?_name]

/-- **The listing of plugins is read back.**  Whatever is known about plugins, in however long a
list, the listing and the line that it is printed as are read as a list of values, and from these
values the same is read about each of the plugins, one by one. -/
theorem read_listing (infos : List PluginInfo) :
    ∃ items, Json.read (listing infos) = some (.array items) ∧
      Json.read (listing infos ++ "\n") = some (.array items) ∧
      items.map PluginInfo.ofJson? = infos.map some := by
  have hwrites : List.Forall₂ (Writes 2) (infos.map PluginInfo.listed)
      (infos.map PluginInfo.value) := by
    rw [List.forall₂_map_left_iff, List.forall₂_map_right_iff, List.forall₂_same]
    exact fun info _ => info.writes_listed
  cases infos with
  | nil => exact ⟨[], rfl, rfl, rfl⟩
  | cons info infos =>
    have hdepth : 3 ≤ (Written.list ((info :: infos).map PluginInfo.listed) 0).length := by
      simp [Written.list, Written.newline]
    obtain ⟨hread, hline⟩ := read_render (writes_list hwrites) hdepth
    refine ⟨_, hread, hline, ?_⟩
    rw [List.map_map]
    exact List.map_congr_left fun info _ => info.ofJson?_value

end PluginInfo

end PluginHost
