/-
# Registries of configurations that were checked

A configuration is checked before it is used: the plugins that it lists are looked at one by one,
and the first one that is at fault is reported.  A plugin is at fault behind others
(`RegisteredPlugin.Faulty`) if one of them has its number, or else if its name is blank; a list
where nobody is (`RegisteredPlugin.Sound`) has different numbers and proper names.

A registry would keep only the last of several plugins with one number.  In a list that was
accepted no number comes twice, so the registry has every plugin of the list and no other, each as
it is listed (`Registry.ofConfig_validated`).
-/
import Mathlib.Data.List.Induction
import PluginHost.Proofs.Registry

namespace PluginHost

namespace RegisteredPlugin

/-- The plugins have different numbers, and none of them has a blank name. -/
structure Sound (plugins : List RegisteredPlugin) : Prop where
  /-- No number comes twice. -/
  distinct : (plugins.map id).Nodup
  /-- In every name there is a character other than white space. -/
  named : ∀ plugin ∈ plugins, ∃ c ∈ plugin.name.toList, Blank.isBlank c = false

/-- What is wrong with a plugin that is listed behind others. -/
inductive Faulty (front : List RegisteredPlugin) (plugin : RegisteredPlugin) : ConfigError → Prop
  /-- One of the others has its number, whatever its name is. -/
  | repeated (hid : plugin.id ∈ front.map id) : Faulty front plugin (.duplicatePlugin plugin.id)
  /-- Its number is new, and in its name there is nothing but white space. -/
  | nameless (hid : plugin.id ∉ front.map id)
      (hblank : ∀ c ∈ plugin.name.toList, Blank.isBlank c = true) :
      Faulty front plugin (.emptyPluginName plugin.id)

/-- What the registry is to know about a plugin that is listed. -/
def info (plugin : RegisteredPlugin) : PluginInfo :=
  ⟨plugin.id, plugin.name, plugin.version, none, .config⟩

variable {front middle plugins : List RegisteredPlugin} {plugin : RegisteredPlugin}
  {error : ConfigError}

lemma isBlankText_eq_true_iff {s : String} :
    Blank.isBlankText s = true ↔ ∀ c ∈ s.toList, Blank.isBlank c = true := List.all_eq_true

lemma not_isBlankText_iff {s : String} :
    ¬ Blank.isBlankText s = true ↔ ∃ c ∈ s.toList, Blank.isBlank c = false := by
  simp [isBlankText_eq_true_iff]

lemma sound_iff : Sound plugins ↔
    (plugins.map id).Nodup ∧ ∀ plugin ∈ plugins, ¬ Blank.isBlankText plugin.name = true := by
  simp only [not_isBlankText_iff]
  exact ⟨fun hsound => ⟨hsound.distinct, hsound.named⟩, fun hsound => ⟨hsound.1, hsound.2⟩⟩

instance : DecidablePred Sound := fun _ => decidable_of_iff _ sound_iff.symm

lemma sound_nil : Sound [] := ⟨List.nodup_nil, nofun⟩

lemma sound_append_iff : Sound (front ++ [plugin]) ↔
    Sound front ∧ plugin.id ∉ front.map id ∧ ¬ Blank.isBlankText plugin.name = true := by
  have hdistinct : ((front ++ [plugin]).map id).Nodup ↔
      plugin.id ∉ front.map id ∧ (front.map id).Nodup := by
    rw [List.map_append, List.map_singleton, ← List.concat_eq_append, List.nodup_concat]
  rw [sound_iff, sound_iff, hdistinct, List.forall_mem_append, List.forall_mem_singleton]
  tauto

/-- Behind a sound list a plugin is at fault, or the list is sound with the plugin. -/
lemma sound_or_faulty (hsound : Sound front) (plugin : RegisteredPlugin) :
    Sound (front ++ [plugin]) ∨ ∃ error, plugin.Faulty front error := by
  by_cases hid : plugin.id ∈ front.map id
  · exact .inr ⟨_, .repeated hid⟩
  · by_cases hblank : Blank.isBlankText plugin.name = true
    · exact .inr ⟨_, .nameless hid (isBlankText_eq_true_iff.1 hblank)⟩
    · exact .inl (sound_append_iff.2 ⟨hsound, hid, hblank⟩)

/-- A list is sound, or it has a first plugin that is at fault. -/
lemma sound_or_split (plugins : List RegisteredPlugin) :
    Sound plugins ∨ ∃ front plugin rear error,
      plugins = front ++ plugin :: rear ∧ Sound front ∧ plugin.Faulty front error := by
  induction plugins using List.reverseRecOn with
  | nil => exact .inl sound_nil
  | append_singleton plugins plugin ih =>
    -- a fault among the plugins in front stays the first one
    rcases ih with hsound | ⟨front, other, rear, error, rfl, hfront, hfaulty⟩
    · rcases sound_or_faulty hsound plugin with hsound | ⟨error, hfaulty⟩
      · exact .inl hsound
      · exact .inr ⟨plugins, plugin, [], error, rfl, hsound, hfaulty⟩
    · exact .inr ⟨front, other, rear ++ [plugin], error, by simp, hfront, hfaulty⟩

/-- The check of a list passes over its front, if this is sound. -/
lemma validateFrom_append (hsound : Sound (front ++ middle)) (rear : List RegisteredPlugin) :
    Config.validateFrom (front.map id).reverse (middle ++ rear) =
      Config.validateFrom ((front ++ middle).map id).reverse rear := by
  induction middle generalizing front with
  | nil => rw [List.append_nil, List.nil_append]
  | cons plugin middle ih =>
    rw [List.append_cons front plugin middle] at hsound ⊢
    have hfront : Sound (front ++ [plugin]) :=
      ⟨hsound.distinct.sublist ((List.sublist_append_left _ middle).map _),
        fun other hother => hsound.named other (List.mem_append_left _ hother)⟩
    obtain ⟨-, hid, hname⟩ := sound_append_iff.1 hfront
    have hseen : plugin.id ∉ (front.map id).reverse := by rwa [List.mem_reverse]
    -- the check has the numbers that it has seen the other way round
    have hnext : plugin.id :: (front.map id).reverse = ((front ++ [plugin]).map id).reverse := by
      simp
    rw [List.cons_append, Config.validateFrom, if_neg hseen, if_neg hname, hnext, ih hsound]

lemma validateFrom_of_sound (hsound : Sound plugins) :
    Config.validateFrom [] plugins = .ok () := by
  have hpassed := @validateFrom_append [] plugins hsound []
  rw [List.append_nil] at hpassed
  exact hpassed

/-- What is wrong with the first plugin that is at fault is reported. -/
lemma validateFrom_of_faulty (hsound : Sound front) (hfaulty : plugin.Faulty front error)
    (rear : List RegisteredPlugin) :
    Config.validateFrom [] (front ++ plugin :: rear) = .error error := by
  have hpassed := @validateFrom_append [] front hsound (plugin :: rear)
  refine hpassed.trans ?_
  rw [List.nil_append, Config.validateFrom]
  cases hfaulty with
  | repeated hid => rw [if_pos (by rwa [List.mem_reverse])]
  | nameless hid hblank =>
    rw [if_neg (by rwa [List.mem_reverse]), if_pos (isBlankText_eq_true_iff.2 hblank)]

end RegisteredPlugin

namespace Config

open RegisteredPlugin

variable {config : Config} {error : ConfigError}

lemma validate_eq_ok_iff : config.validate = .ok () ↔ Sound config.plugins.registered := by
  refine ⟨fun hvalid => ?_, validateFrom_of_sound⟩
  rcases sound_or_split config.plugins.registered with hsound |
    ⟨front, plugin, rear, error, hsplit, hsound, hfaulty⟩
  · exact hsound
  · rw [validate, hsplit, validateFrom_of_faulty hsound hfaulty] at hvalid
    cases hvalid

lemma validate_eq_error_iff : config.validate = .error error ↔ ∃ front plugin rear,
    config.plugins.registered = front ++ plugin :: rear ∧ Sound front ∧
      plugin.Faulty front error := by
  constructor
  · intro hinvalid
    rcases sound_or_split config.plugins.registered with hsound |
      ⟨front, plugin, rear, error', hsplit, hsound, hfaulty⟩
    · rw [validate_eq_ok_iff.2 hsound] at hinvalid
      cases hinvalid
    · rw [validate, hsplit, validateFrom_of_faulty hsound hfaulty] at hinvalid
      cases hinvalid
      exact ⟨front, plugin, rear, hsplit, hsound, hfaulty⟩
  · rintro ⟨front, plugin, rear, hsplit, hsound, hfaulty⟩
    rw [validate, hsplit, validateFrom_of_faulty hsound hfaulty]

end Config

namespace Registry

open RegisteredPlugin

variable {config : PluginsConfig}

/-- What is under a number is the plugin that is listed with it. -/
lemma get?_ofConfig_eq_some_iff (henabled : config.enabled = true)
    (hsound : Sound config.registered) {id : PluginId} {entry : PluginEntry} :
    (ofConfig config).get? id = some entry ↔
      ∃ plugin ∈ config.registered, plugin.id = id ∧ entry = ⟨plugin.info, plugin.enabled⟩ := by
  rw [get?, getElem?_ofConfig henabled, Option.map_eq_some_iff]
  constructor
  · rintro ⟨plugin, hlatest, rfl⟩
    obtain ⟨hid, hplugin⟩ := of_latest hlatest
    exact ⟨plugin, hplugin, hid, rfl⟩
  · rintro ⟨plugin, hplugin, rfl, rfl⟩
    exact ⟨plugin, latest_of_nodup hsound.distinct hplugin, rfl⟩

/-- The listing has the plugins of a sound list, each one once. -/
lemma infos_ofConfig_perm (henabled : config.enabled = true) (hsound : Sound config.registered) :
    (ofConfig config).infos.Perm (config.registered.map info) := by
  have hkeyed := keyed_ofConfig config
  have hlisted : (ofConfig config).infos.Nodup := by
    refine List.Nodup.of_map PluginInfo.id ?_
    rw [hkeyed.infos_map]
    exact keys_pairwise.imp Std.ne_of_lt
  have hregistered : (config.registered.map info).Nodup := by
    refine List.Nodup.of_map PluginInfo.id ?_
    rw [List.map_map]
    exact hsound.distinct
  rw [List.perm_ext_iff_of_nodup hlisted hregistered]
  intro known
  simp only [mem_infos_iff, get?_ofConfig_eq_some_iff henabled hsound, List.mem_map]
  constructor
  · rintro ⟨_, _, ⟨plugin, hplugin, -, rfl⟩, rfl⟩
    exact ⟨plugin, hplugin, rfl⟩
  · rintro ⟨plugin, hplugin, rfl⟩
    exact ⟨_, _, ⟨plugin, hplugin, rfl, rfl⟩, rfl⟩

lemma contains_ofConfig_iff (henabled : config.enabled = true)
    (hsound : Sound config.registered) {id : PluginId} :
    (ofConfig config).contains id = true ↔
      ∃ plugin ∈ config.registered, plugin.id = id ∧ plugin.enabled = true := by
  have hon : (ofConfig config).enabled = true := henabled
  simp only [contains_iff, hon, get?_ofConfig_eq_some_iff henabled hsound, true_and]
  constructor
  · rintro ⟨_, ⟨plugin, hplugin, hid, rfl⟩, haccepted⟩
    exact ⟨plugin, hplugin, hid, haccepted⟩
  · rintro ⟨plugin, hplugin, hid, haccepted⟩
    exact ⟨_, ⟨plugin, hplugin, hid, rfl⟩, haccepted⟩

/-- **A registry has the plugins that a checked configuration lists.**  The check accepts the lists
that are sound, and of any other it reports the first plugin that is at fault.  The registry of a
list that was accepted has each plugin of it as it is listed, in ascending order, and calls of those
that are enabled are accepted; without plugins there is nothing in it. -/
theorem ofConfig_validated (config : Config) :
    let listed := config.plugins.registered
    let r := ofConfig config.plugins
    (config.validate = .ok () ↔
      (listed.map RegisteredPlugin.id).Nodup ∧
      ∀ plugin ∈ listed, ∃ c ∈ plugin.name.toList, Blank.isBlank c = false) ∧
    (∀ error, config.validate = .error error ↔ ∃ front plugin rear,
      listed = front ++ plugin :: rear ∧ Sound front ∧ plugin.Faulty front error) ∧
    (config.validate = .ok () → config.plugins.enabled = true →
      (r.infos.map PluginInfo.id).Pairwise (· < ·) ∧
      r.infos.Perm (listed.map fun plugin =>
        ⟨plugin.id, plugin.name, plugin.version, none, .config⟩) ∧
      (∀ id, r.contains id = true ↔
        ∃ plugin ∈ listed, plugin.id = id ∧ plugin.enabled = true)) ∧
    (config.plugins.enabled = false →
      r.infos = [] ∧ ∀ id, r.get? id = none ∧ r.contains id = false) := by
  intro listed r
  refine ⟨?_, fun error => Config.validate_eq_error_iff, fun hvalid henabled => ?_, fun hoff => ?_⟩
  · rw [Config.validate_eq_ok_iff]
    exact ⟨fun hsound => ⟨hsound.distinct, hsound.named⟩, fun ⟨hdistinct, hnamed⟩ =>
      ⟨hdistinct, hnamed⟩⟩
  · have hsound := Config.validate_eq_ok_iff.1 hvalid
    refine ⟨?_, infos_ofConfig_perm henabled hsound,
      fun id => contains_ofConfig_iff henabled hsound⟩
    rw [(keyed_ofConfig config.plugins).infos_map]
    exact keys_pairwise
  · have hentries : r.entries = ∅ := by simp [r, ofConfig, hoff]
    have hget : ∀ id, r.get? id = none := fun id => by simp [get?, hentries]
    refine ⟨?_, fun id => ⟨hget id, ?_⟩⟩
    · rw [List.eq_nil_iff_forall_not_mem]
      intro known hknown
      obtain ⟨id, entry, hentry, -⟩ := mem_infos_iff.1 hknown
      rw [hget id] at hentry
      cases hentry
    · have hoff' : r.enabled = false := hoff
      rw [contains, hoff', Bool.false_and]

/-- The list need not ascend, and a plugin of it need not be enabled; one that repeats a number is
reported for that, though its name is blank as well. -/
theorem ofConfig_validated_unsorted :
    let listing (plugins : List RegisteredPlugin) : Config :=
      { Config.default with plugins := ⟨true, plugins⟩ }
    let accepted := listing [⟨7, "Scout", none, false⟩, ⟨2, " é ", some "0.3.0", true⟩]
    let r := ofConfig accepted.plugins
    accepted.validate = .ok () ∧
    r.infos = [⟨2, " é ", some "0.3.0", none, .config⟩, ⟨7, "Scout", none, none, .config⟩] ∧
    r.contains 2 = true ∧ r.contains 7 = false ∧
    (listing [⟨7, "Scout", none, true⟩, ⟨2, "é", none, true⟩, ⟨7, "\u2003", none, true⟩,
      ⟨5, "", none, true⟩]).validate = .error (.duplicatePlugin 7) := by
  intro listing accepted r
  obtain ⟨hok, -, hregistry, -⟩ := ofConfig_validated accepted
  have hsound : Sound accepted.plugins.registered := by decide
  have hvalid : accepted.validate = .ok () := hok.2 ⟨hsound.distinct, hsound.named⟩
  obtain ⟨hascending, hperm, hcontains⟩ := hregistry hvalid rfl
  refine ⟨hvalid, ?_, (hcontains 2).2 ⟨_, List.mem_cons_of_mem _ List.mem_cons_self, rfl, rfl⟩,
    ?_, ?_⟩
  · -- of the orders of a list only one ascends
    have hlisted : (List.map PluginInfo.id [⟨2, " é ", some "0.3.0", none, .config⟩,
        ⟨7, "Scout", none, none, .config⟩]).Pairwise (· < ·) := by decide
    exact List.Perm.eq_of_pairwise
      (fun _ _ _ _ hab hba => absurd (Std.lt_trans hab hba) Std.lt_irrefl)
      (List.pairwise_map.1 hascending) (List.pairwise_map.1 hlisted)
      (hperm.trans (List.Perm.swap _ _ _))
  · rw [← Bool.not_eq_true, hcontains]
    decide
  · refine ((ofConfig_validated _).2.1 _).2 ⟨[⟨7, "Scout", none, true⟩, ⟨2, "é", none, true⟩], _, _,
      rfl, by decide, .repeated (by decide)⟩

end Registry

end PluginHost
