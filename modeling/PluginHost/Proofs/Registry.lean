/-
# Registries in use

A registry begins with the plugins of a configuration.  While the host runs, plugins are registered
and forgotten, and ask for tables, in any order (`Registry.Operation`).  Numbers that were given up
are given out again, so an entry must not be found under any number but its own; that it is not
(`Registry.Keyed`) is what every operation preserves.

All that is said about a registry in use follows from that, and is listed in `Registry.Orderly`:
what the listing and the search for a name show, whose calls are accepted, and what each operation
would do next.  The main statement is that a registry is orderly after any operations
(`Registry.run_orderly`).
-/
import PluginHost.Proofs.Records
import PluginHost.Registry

namespace PluginHost

/-- There is a table for the version. -/
def Version.IsKnown (v : Version) : Prop :=
  v.major = 1 ∧ (v.minor = 0 ∨ v.minor = 1 ∨ v.minor = 2)

namespace Registry

/-- Something done to a registry. -/
inductive Operation where
  /-- A plugin is registered. -/
  | register (name : String) (version : Option String)
  /-- A plugin is forgotten. -/
  | unregister (id : PluginId)
  /-- A plugin asks for the table of a version. -/
  | bindApi (id : PluginId) (version : Version)
deriving DecidableEq, Repr

/-- The registry after an operation.  One that fails leaves it as it was. -/
def apply (r : Registry) : Operation → Registry
  | .register name version => ((r.register name version).map Prod.snd).getD r
  | .unregister id => (r.unregister id).2
  | .bindApi id version =>
    match r.bindApi id version with
    | .ok (_, r') => r'
    | .error _ => r

/-- The registry after operations, one after the other. -/
def run (r : Registry) (operations : List Operation) : Registry := operations.foldl apply r

/-! ## The lowest free number -/

/-- From `candidate` on, this is the lowest number that is missing; or none is. -/
def Lowest (candidate : PluginId) (ids : List PluginId) : Option PluginId → Prop
  | some id => candidate ≤ id ∧ id ∉ ids ∧ ∀ i, candidate ≤ i → i < id → i ∈ ids
  | none => ∀ i, candidate ≤ i → i ∈ ids

lemma le_lastId (id : PluginId) : id ≤ lastId := by
  rw [UInt32.le_iff_toNat_le]
  have hlt := id.toNat_lt_size
  have hlast : lastId.toNat = UInt32.size - 1 := by decide
  omega

lemma zero_le (id : PluginId) : 0 ≤ id := by
  rw [UInt32.le_iff_toNat_le]
  exact Nat.zero_le _

/-- Behind a number other than the last one stands the next. -/
lemma add_one_le_iff {id : PluginId} (hlast : id ≠ lastId) (i : PluginId) :
    id + 1 ≤ i ↔ id < i := by
  have hlt : id.toNat < lastId.toNat := by
    rw [← UInt32.lt_iff_toNat_lt]
    exact Std.lt_of_le_of_ne (le_lastId id) hlast
  have hnext : (id + 1).toNat = id.toNat + 1 := by
    have hsize := lastId.toNat_lt_size
    simp only [UInt32.size] at hsize
    rw [UInt32.toNat_add, UInt32.toNat_one, Nat.mod_eq_of_lt]
    omega
  rw [UInt32.le_iff_toNat_le, UInt32.lt_iff_toNat_lt, hnext]
  omega

lemma lowest_lowestUnused {candidate : PluginId} {ids : List PluginId}
    (hascending : ids.Pairwise (· < ·)) (hfrom : ∀ i ∈ ids, candidate ≤ i) :
    Lowest candidate ids (lowestUnused lastId candidate ids) := by
  induction ids generalizing candidate with
  | nil =>
    refine ⟨Std.le_refl _, List.not_mem_nil, fun i hi hlt => ?_⟩
    exact absurd hi (Std.not_le.2 hlt)
  | cons i ids ih =>
    obtain ⟨hfirst, hrest⟩ := List.pairwise_cons.1 hascending
    rw [lowestUnused]
    split_ifs with hi hlast
    · -- the candidate is below the first number, and so below all of them
      have hlt : candidate < i := Std.lt_of_le_of_ne (hfrom i List.mem_cons_self) (Ne.symm hi)
      refine ⟨Std.le_refl _, fun hmem => ?_, fun j hj hlt => absurd hj (Std.not_le.2 hlt)⟩
      obtain rfl | hmem := List.mem_cons.1 hmem
      · exact hi rfl
      · exact Std.lt_irrefl (Std.lt_trans hlt (hfirst candidate hmem))
    · -- there is no number behind the last one
      obtain rfl : i = candidate := not_not.1 hi
      intro j hj
      rw [Std.le_antisymm (hlast ▸ le_lastId j) hj]
      exact List.mem_cons_self
    · obtain rfl : i = candidate := not_not.1 hi
      have hrest' := ih hrest fun j hj => (add_one_le_iff hlast j).2 (hfirst j hj)
      have hmem : ∀ j, i ≤ j → (i + 1 ≤ j → j ∈ ids) → j ∈ i :: ids := by
        intro j hj hlater
        by_cases hij : i = j
        · exact hij ▸ List.mem_cons_self
        · exact List.mem_cons_of_mem _
            (hlater ((add_one_le_iff hlast j).2 (Std.lt_of_le_of_ne hj hij)))
      rcases hfound : lowestUnused lastId (i + 1) ids with _ | id
      · rw [hfound] at hrest'
        exact fun j hj => hmem j hj (hrest' j)
      · rw [hfound] at hrest'
        obtain ⟨hle, hunused, hbelow⟩ := hrest'
        have hlt : i < id := (add_one_le_iff hlast id).1 hle
        refine ⟨Std.le_of_lt hlt, fun hid => ?_, fun j hj hjid => hmem j hj (hbelow j · hjid)⟩
        obtain rfl | hid := List.mem_cons.1 hid
        · exact Std.lt_irrefl hlt
        · exact hunused hid

/-- In `r'` there is `placed?` under the number `id`, and all else of `r`. -/
structure Replaced (r : Registry) (id : PluginId) (placed? : Option PluginEntry) (r' : Registry) :
    Prop where
  enabled_eq : r'.enabled = r.enabled
  get?_eq : ∀ other, r'.get? other = if other = id then placed? else r.get? other

/-- Every entry is under the number that it carries. -/
def Keyed (r : Registry) : Prop := ∀ id entry, r.get? id = some entry → entry.info.id = id

variable {r r' : Registry} {id : PluginId} {name : String} {version : Option String}

lemma replaced_insert (r : Registry) (id : PluginId) (entry : PluginEntry) :
    r.Replaced id (some entry) { r with entries := r.entries.insert id entry } :=
  ⟨rfl, getElem?_insert_eq r.entries id entry⟩

lemma replaced_unregister (r : Registry) (id : PluginId) :
    r.Replaced id none (r.unregister id).2 :=
  ⟨rfl, getElem?_erase_eq r.entries id⟩

lemma mem_keys_entries : id ∈ r.entries.keys ↔ r.get? id ≠ none := by
  rw [mem_keys_iff, get?, Option.isSome_iff_ne_none]

/-- A plugin is registered under the lowest free number. -/
lemma of_register (hregister : r.register name version = some (id, r')) :
    r.get? id = none ∧ (∀ id' < id, r.get? id' ≠ none) ∧
      r.Replaced id (some ⟨⟨id, name, version, none, .runtime⟩, true⟩) r' := by
  have hlowest := lowest_lowestUnused (keys_pairwise (t := r.entries)) fun i _ => zero_le i
  unfold register at hregister
  rcases hfound : lowestUnused lastId 0 r.entries.keys with _ | id'
  · rw [hfound] at hregister
    cases hregister
  · rw [hfound] at hregister hlowest
    cases hregister
    obtain ⟨-, hunused, hbelow⟩ := hlowest
    refine ⟨?_, fun id' hlt => mem_keys_entries.1 (hbelow id' (zero_le id') hlt),
      replaced_insert r id (runtimeEntry id name version)⟩
    by_contra hused
    exact hunused (mem_keys_entries.2 hused)

/-- No plugin can be registered any more when all numbers are taken, and only then. -/
lemma register_eq_none_iff : r.register name version = none ↔ ∀ id, r.get? id ≠ none := by
  have hlowest := lowest_lowestUnused (keys_pairwise (t := r.entries)) fun i _ => zero_le i
  unfold register
  rcases hfound : lowestUnused lastId 0 r.entries.keys with _ | id
  · rw [hfound] at hlowest
    refine ⟨fun _ id => ?_, fun _ => rfl⟩
    exact mem_keys_entries.1 (hlowest id (zero_le id))
  · rw [hfound] at hlowest
    refine ⟨fun hnone => ?_, fun hfull => ?_⟩
    · cases hnone
    · exact absurd (mem_keys_entries.2 (hfull id)) hlowest.2.1

lemma for?_eq_error_iff {v : Version} {code : ErrorCode} :
    ApiTable.for? v = .error code ↔ ¬ v.IsKnown ∧ code = .invalidApiVersion := by
  unfold ApiTable.for? Version.IsKnown
  split_ifs with h₀ h₂
  · simp only [false_iff]
    rintro ⟨hunknown, -⟩
    exact hunknown ⟨h₀.1, h₀.2.imp id .inl⟩
  · simp only [false_iff]
    rintro ⟨hunknown, -⟩
    exact hunknown ⟨h₂.1, .inr (.inr h₂.2)⟩
  · grind

lemma bindApi_of_not_isKnown {v : Version} (hunknown : ¬ v.IsKnown) (id : PluginId) :
    r.bindApi id v = .error .invalidApiVersion := by
  rw [bindApi, for?_eq_error_iff.2 ⟨hunknown, rfl⟩]
  rfl

/-! An operation that fails leaves the registry as it was. -/

lemma apply_of_register_eq_none (hnone : r.register name version = none) :
    r.apply (.register name version) = r := by
  rw [apply, hnone]
  rfl

lemma apply_of_not_isKnown {v : Version} (hunknown : ¬ v.IsKnown) :
    r.apply (.bindApi id v) = r := by
  simp only [apply, bindApi_of_not_isKnown hunknown]

/-- The version is noted in the entry, if there is one. -/
lemma bindApi_of_isKnown {v : Version} (hknown : v.IsKnown) (r : Registry) (id : PluginId) :
    ∃ table r', r.bindApi id v = .ok (table, r') ∧
      r.Replaced id ((r.get? id).map fun entry =>
        { entry with info := { entry.info with apiVersion := some v } }) r' := by
  rcases htable : ApiTable.for? v with code | table
  · exact absurd hknown (for?_eq_error_iff.1 htable).1
  rw [bindApi, htable]
  rcases hentry : r.entries[id]? with _ | entry
  · refine ⟨table, r, rfl, rfl, fun other => ?_⟩
    split_ifs with hother
    · rw [hother, get?, hentry, Option.map_none]
    · rfl
  · refine ⟨table, _, rfl, ?_⟩
    rw [get?, hentry]
    exact replaced_insert r id _

/-! ## Registries where every entry is under its number -/

lemma getElem?_ofConfig {config : PluginsConfig} (henabled : config.enabled = true)
    (id : PluginId) : (ofConfig config).entries[id]? =
      (latest RegisteredPlugin.id id config.registered).map seedEntry := by
  rw [ofConfig, henabled]
  exact getElem?_filled RegisteredPlugin.id seedEntry config.registered id

lemma keyed_ofConfig (config : PluginsConfig) : (ofConfig config).Keyed := by
  intro id entry hentry
  rcases henabled : config.enabled with _ | _
  · simp [get?, ofConfig, henabled] at hentry
  · rw [get?, getElem?_ofConfig henabled] at hentry
    obtain ⟨plugin, hplugin, rfl⟩ := Option.map_eq_some_iff.1 hentry
    exact (of_latest hplugin).1

lemma Replaced.keyed {placed? : Option PluginEntry} (hreplaced : r.Replaced id placed? r')
    (hkeyed : r.Keyed) (hentry : ∀ entry, placed? = some entry → entry.info.id = id) :
    r'.Keyed := by
  intro other entry hother
  rw [hreplaced.get?_eq] at hother
  split_ifs at hother with hid
  · rw [hid]
    exact hentry entry hother
  · exact hkeyed other entry hother

lemma Keyed.apply (hkeyed : r.Keyed) (operation : Operation) : (r.apply operation).Keyed := by
  cases operation with
  | register name version =>
    rcases hregister : r.register name version with _ | ⟨id, r'⟩
    · rwa [apply_of_register_eq_none hregister]
    · obtain ⟨-, -, hreplaced⟩ := of_register hregister
      simp only [Registry.apply, hregister, Option.map_some, Option.getD_some]
      refine hreplaced.keyed hkeyed fun entry hentry => ?_
      cases hentry
      rfl
  | unregister id => exact (replaced_unregister r id).keyed hkeyed nofun
  | bindApi id v =>
    by_cases hknown : v.IsKnown
    · obtain ⟨table, r', hbind, hreplaced⟩ := bindApi_of_isKnown hknown r id
      simp only [Registry.apply, hbind]
      refine hreplaced.keyed hkeyed fun entry hentry => ?_
      obtain ⟨entry, hold, rfl⟩ := Option.map_eq_some_iff.1 hentry
      exact hkeyed id entry hold
    · rwa [apply_of_not_isKnown hknown]

lemma Keyed.run (hkeyed : r.Keyed) (operations : List Operation) : (r.run operations).Keyed := by
  induction operations generalizing r with
  | nil => exact hkeyed
  | cons operation operations ih => exact ih (hkeyed.apply operation)

/-- The whole registry is switched on or off for good. -/
lemma enabled_apply (r : Registry) (operation : Operation) :
    (r.apply operation).enabled = r.enabled := by
  cases operation with
  | register name version =>
    rcases hregister : r.register name version with _ | ⟨id, r'⟩
    · rw [apply_of_register_eq_none hregister]
    · rw [apply, hregister]
      exact (of_register hregister).2.2.enabled_eq
  | unregister id => rfl
  | bindApi id v =>
    by_cases hknown : v.IsKnown
    · obtain ⟨table, r', hbind, hreplaced⟩ := bindApi_of_isKnown hknown r id
      simpa only [apply, hbind] using hreplaced.enabled_eq
    · rw [apply_of_not_isKnown hknown]

lemma enabled_run (r : Registry) (operations : List Operation) :
    (r.run operations).enabled = r.enabled := by
  induction operations generalizing r with
  | nil => rfl
  | cons operation operations ih => exact (ih _).trans (enabled_apply r operation)

/-! ## What a registry shows -/

lemma Keyed.infos_map (hkeyed : r.Keyed) : r.infos.map PluginInfo.id = r.entries.keys := by
  rw [infos, List.map_map]
  exact values_map hkeyed

lemma mem_infos_iff {info : PluginInfo} :
    info ∈ r.infos ↔ ∃ id entry, r.get? id = some entry ∧ entry.info = info := by
  simp only [infos, List.mem_map, mem_values_iff, get?]
  grind

/-- The search for a name gives the lowest number of a plugin that has it. -/
lemma Keyed.findByName_eq_some_iff (hkeyed : r.Keyed) :
    r.findByName name = some id ↔
      (∃ entry, r.get? id = some entry ∧ entry.info.name = name) ∧
      ∀ id' entry, r.get? id' = some entry → entry.info.name = name → id ≤ id' := by
  rw [findByName, values_find?_map_eq_some_iff hkeyed]
  simp only [decide_eq_true_eq, get?]

lemma findByName_eq_none_iff :
    r.findByName name = none ↔ ∀ id entry, r.get? id = some entry → entry.info.name ≠ name := by
  rw [findByName, Option.map_eq_none_iff, values_find?_eq_none_iff]
  simp only [decide_eq_true_eq, get?, ne_eq]

lemma contains_iff : r.contains id = true ↔
    r.enabled = true ∧ ∃ entry, r.get? id = some entry ∧ entry.enabled = true := by
  rw [contains, get?]
  cases r.entries[id]? <;> simp

lemma nameOf_eq_some_iff : r.nameOf id = some name ↔
    r.contains id = true ∧ ∃ entry, r.get? id = some entry ∧ entry.info.name = name := by
  unfold nameOf
  split_ifs with hcontains <;> simp [hcontains, get?]

/-- What holds of a registry in use. -/
structure Orderly (r : Registry) : Prop where
  /-- Every entry is under the number that it carries. -/
  keyed : ∀ id entry, r.get? id = some entry → entry.info.id = id
  /-- The listing ascends by number. -/
  ascending : (r.infos.map PluginInfo.id).Pairwise (· < ·)
  /-- It has the entries that there are, and no others. -/
  listed : ∀ info, info ∈ r.infos ↔ ∃ id entry, r.get? id = some entry ∧ entry.info = info
  /-- A plugin is registered under the lowest free number, and enabled; nothing else changes. -/
  registered : ∀ name version id r', r.register name version = some (id, r') →
    r.get? id = none ∧ (∀ id' < id, r.get? id' ≠ none) ∧
    r.Replaced id (some ⟨⟨id, name, version, none, .runtime⟩, true⟩) r'
  /-- This fails when all numbers are taken, and only then; nothing changes then. -/
  exhausted : ∀ name version, (r.register name version = none ↔ ∀ id, r.get? id ≠ none) ∧
    (r.register name version = none → r.apply (.register name version) = r)
  /-- A plugin that is forgotten is given back, and all others stay. -/
  unregistered : ∀ id, (r.unregister id).1 = r.get? id ∧ r.Replaced id none (r.unregister id).2
  /-- Of a version that is known there is a table, and the version is noted in the entry of the
  plugin; nothing else changes. -/
  bound : ∀ id (v : Version), v.IsKnown → ∃ table r', r.bindApi id v = .ok (table, r') ∧
    r.Replaced id ((r.get? id).map fun entry =>
      { entry with info := { entry.info with apiVersion := some v } }) r'
  /-- A version that is not known is refused, and nothing changes. -/
  refused : ∀ id (v : Version), ¬ v.IsKnown →
    r.bindApi id v = .error .invalidApiVersion ∧ r.apply (.bindApi id v) = r
  /-- The search for a name gives the lowest number of a plugin that has it. -/
  named : ∀ name id, r.findByName name = some id ↔
    (∃ entry, r.get? id = some entry ∧ entry.info.name = name) ∧
    ∀ id' entry, r.get? id' = some entry → entry.info.name = name → id ≤ id'
  /-- It gives nothing if no plugin has the name. -/
  unnamed : ∀ name, r.findByName name = none ↔
    ∀ id entry, r.get? id = some entry → entry.info.name ≠ name
  /-- The calls of a plugin are accepted when it is enabled, and so is the registry. -/
  accepted : ∀ id, r.contains id = true ↔
    r.enabled = true ∧ ∃ entry, r.get? id = some entry ∧ entry.enabled = true
  /-- A plugin whose calls are accepted has its name, and no other plugin has one. -/
  nameOf_iff : ∀ id name, r.nameOf id = some name ↔
    r.contains id = true ∧ ∃ entry, r.get? id = some entry ∧ entry.info.name = name

lemma Keyed.orderly (hkeyed : r.Keyed) : r.Orderly where
  keyed := hkeyed
  ascending := by
    rw [hkeyed.infos_map]
    exact keys_pairwise
  listed _ := mem_infos_iff
  registered _ _ _ _ := of_register
  exhausted _ _ := ⟨register_eq_none_iff, apply_of_register_eq_none⟩
  unregistered id := ⟨rfl, replaced_unregister r id⟩
  bound id _ hknown := bindApi_of_isKnown hknown r id
  refused id _ hunknown := ⟨bindApi_of_not_isKnown hunknown id, apply_of_not_isKnown hunknown⟩
  named _ _ := hkeyed.findByName_eq_some_iff
  unnamed _ := findByName_eq_none_iff
  accepted _ := contains_iff
  nameOf_iff _ _ := nameOf_eq_some_iff

/-- **A registry in use is orderly.**  Whatever the configuration lists, and whatever has been
registered, forgotten and bound since, everything in `Orderly` holds; and the registry is switched
on if the configuration says so. -/
theorem run_orderly (config : PluginsConfig) (operations : List Operation) :
    ((ofConfig config).run operations).Orderly ∧
      ((ofConfig config).run operations).enabled = config.enabled :=
  ⟨((keyed_ofConfig config).run operations).orderly, enabled_run _ operations⟩

end Registry
end PluginHost
