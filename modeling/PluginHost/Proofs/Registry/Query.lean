/-
# A name is asked for while plugins come and go

Who asks for the name of a plugin is told whether its calls are accepted, and only then reads the
name.  The registry is looked into once for each of the two, and in between plugins may be
registered, forgotten and bound.  What was found out first may no longer hold by then: the plugin
may be gone, and its number may belong to another one.  A `Query` is the state of such a question,
and a list of `Query.Event`s one order in which all this can happen.

The name is nevertheless one of a plugin whose calls are accepted at the moment when it is read.
What an operation can make of the entry under a number is said once (`Registry.Turns`).  No
operation makes an entry that is not enabled: such entries are there from the beginning, and once
forgotten they do not come back.  So whatever is found where an enabled entry was is enabled too
(`Query.Sound`).  The main statement is `Query.run_answered`.
-/
import Mathlib.Data.List.Induction
import PluginHost.Proofs.Registry

namespace PluginHost

namespace Registry

variable {r : Registry} {id : PluginId} {name : String} {config : PluginsConfig}
  {entry : PluginEntry}

/-! ## What becomes of an entry -/

/-- What an operation can make of what is under a number. -/
inductive Turns (id : PluginId) : Operation → Option PluginEntry → Option PluginEntry → Prop
  /-- It is left as it is. -/
  | kept {operation : Operation} {held? : Option PluginEntry} : Turns id operation held? held?
  /-- A plugin is registered under the number, which was free. -/
  | registered {name : String} {version : Option String} :
    Turns id (.register name version) none (some (runtimeEntry id name version))
  /-- The plugin is forgotten. -/
  | unregistered {held? : Option PluginEntry} : Turns id (.unregister id) held? none
  /-- The version that the plugin asked for is noted. -/
  | bound {v : Version} {entry : PluginEntry} : Turns id (.bindApi id v) (some entry)
      (some { entry with info := { entry.info with apiVersion := some v } })

lemma turns_apply (r : Registry) (id : PluginId) (operation : Operation) :
    Turns id operation (r.get? id) ((r.apply operation).get? id) := by
  cases operation with
  | register name version =>
    rcases hregister : r.register name version with _ | ⟨id', r'⟩
    · rw [apply_of_register_eq_none hregister]
      exact .kept
    · obtain ⟨hfree, -, hreplaced⟩ := of_register hregister
      simp only [apply, hregister, Option.map_some, Option.getD_some, hreplaced.get?_eq]
      split_ifs with hid
      · subst hid
        rw [hfree]
        exact .registered
      · exact .kept
  | unregister id' =>
    rw [apply, (replaced_unregister r id').get?_eq]
    split_ifs with hid
    · subst hid
      exact .unregistered
    · exact .kept
  | bindApi id' v =>
    by_cases hknown : v.IsKnown
    · obtain ⟨table, r', hbind, hreplaced⟩ := bindApi_of_isKnown hknown r id'
      simp only [apply, hbind, hreplaced.get?_eq]
      split_ifs with hid
      · subst hid
        cases r.get? id with
        | none => exact .kept
        | some entry => exact .bound
      · exact .kept
    · rw [apply_of_not_isKnown hknown]
      exact .kept

/-- What holds of the entry under a number, and is kept by every operation, holds after all. -/
lemma get?_run_induction {motive : Option PluginEntry → Prop} {operations : List Operation}
    (hstart : motive (r.get? id))
    (hstep : ∀ operation ∈ operations, ∀ {held? held?' : Option PluginEntry},
      Turns id operation held? held?' → motive held? → motive held?') :
    motive ((r.run operations).get? id) := by
  induction operations generalizing r with
  | nil => exact hstart
  | cons operation operations ih =>
    obtain ⟨hfirst, hrest⟩ := List.forall_mem_cons.1 hstep
    exact ih (hfirst (turns_apply r id operation) hstart) hrest

/-- No operation makes an entry that is not enabled. -/
lemma Turns.enabled {operation : Operation} {held? held?' : Option PluginEntry}
    (hturns : Turns id operation held? held?')
    (henabled : ∀ entry, held? = some entry → entry.enabled = true) :
    ∀ entry, held?' = some entry → entry.enabled = true := by
  cases hturns with
  | kept => exact henabled
  | registered =>
    rintro _ ⟨⟩
    rfl
  | unregistered => rintro _ ⟨⟩
  | @bound v entry =>
    rintro _ ⟨⟩
    exact henabled entry rfl

/-- A plugin whose calls are not accepted stays one until it is forgotten. -/
lemma disabled_run {operations : List Operation} (hentry : r.get? id = some entry)
    (hdisabled : entry.enabled = false) (hkept : .unregister id ∉ operations) :
    ∃ entry', (r.run operations).get? id = some entry' ∧ entry'.enabled = false := by
  refine get?_run_induction (motive := fun held? => ∃ entry, held? = some entry ∧
    entry.enabled = false) ⟨entry, hentry, hdisabled⟩ fun operation hmem _ _ hturns hold => ?_
  obtain ⟨entry, rfl, hdisabled⟩ := hold
  cases hturns with
  | kept => exact ⟨entry, rfl, hdisabled⟩
  | unregistered => exact absurd hmem hkept
  | bound => exact ⟨_, rfl, hdisabled⟩

/-- If an entry is there from the configuration, it is that of the plugin which is listed under the
number, the last one if there are several. -/
def Listed (config : PluginsConfig) (id : PluginId) (entry : PluginEntry) : Prop :=
  entry.info.origin = .config → ∃ plugin,
    latest RegisteredPlugin.id id config.registered = some plugin ∧
    plugin.enabled = entry.enabled ∧ plugin.name = entry.info.name

lemma listed_ofConfig (hentry : (ofConfig config).get? id = some entry) :
    Listed config id entry := by
  intro _
  rcases henabled : config.enabled with _ | _
  · simp [get?, ofConfig, henabled] at hentry
  · rw [get?, getElem?_ofConfig henabled] at hentry
    obtain ⟨plugin, hplugin, rfl⟩ := Option.map_eq_some_iff.1 hentry
    exact ⟨plugin, hplugin, rfl, rfl⟩

lemma listed_run (config : PluginsConfig) (operations : List Operation) :
    ∀ entry, ((ofConfig config).run operations).get? id = some entry → Listed config id entry := by
  refine get?_run_induction (motive := fun held? => ∀ entry, held? = some entry →
    Listed config id entry) (fun _ => listed_ofConfig) fun _ _ held? held?' hturns hold => ?_
  cases hturns with
  | kept => exact hold
  | registered =>
    -- this one does not come from the configuration
    rintro _ ⟨⟩ ⟨⟩
  | unregistered => rintro _ ⟨⟩
  | @bound v entry =>
    rintro _ ⟨⟩ horigin
    exact hold entry rfl horigin

/-! ## Questions -/

/-- How far a question for the name of a plugin has come. -/
inductive Query.Stage where
  /-- Nothing is known. -/
  | begun
  /-- The plugin was one whose calls are accepted. -/
  | accepted
  /-- There is an answer. -/
  | answered (name? : Option String)
deriving DecidableEq, Repr

/-- A registry, and a question for the name of a plugin. -/
structure Query where
  /-- The registry. -/
  registry : Registry
  /-- How far the question has come. -/
  stage : Query.Stage

namespace Query

/-- One step of one of the parties. -/
inductive Event where
  /-- The question goes on. -/
  | proceed
  /-- Something is done to the registry. -/
  | operation (operation : Operation)
deriving DecidableEq, Repr

/-- A question that has just begun. -/
def start (r : Registry) : Query := ⟨r, .begun⟩

/-- The question goes on.  It looks into the registry once. -/
def proceed (id : PluginId) (q : Query) : Query :=
  match q.stage with
  | .begun => { q with stage := if q.registry.contains id then .accepted else .answered none }
  | .accepted =>
    { q with stage := .answered ((q.registry.get? id).map fun entry => entry.info.name) }
  | .answered _ => q

/-- One step. -/
def step (id : PluginId) (q : Query) : Event → Query
  | .proceed => q.proceed id
  | .operation operation => { q with registry := q.registry.apply operation }

/-- An order of steps. -/
def run (id : PluginId) (q : Query) (events : List Event) : Query := events.foldl (step id) q

/-- What is done to the registry. -/
def operations (events : List Event) : List Operation :=
  events.filterMap fun
    | .proceed => none
    | .operation operation => some operation

variable {q : Query} {event : Event} {events : List Event}

lemma run_concat (q : Query) (events : List Event) (event : Event) :
    q.run id (events ++ [event]) = (q.run id events).step id event :=
  List.foldl_concat _ _ _ _

lemma registry_proceed (q : Query) : (q.proceed id).registry = q.registry := by
  unfold proceed
  split <;> rfl

/-- Questions do not change the registry. -/
lemma registry_run (q : Query) (events : List Event) :
    (q.run id events).registry = q.registry.run (operations events) := by
  induction events generalizing q with
  | nil => rfl
  | cons event events ih =>
    cases event with
    | proceed =>
      refine (ih (q.proceed id)).trans ?_
      rw [registry_proceed]
      rfl
    | operation operation => exact ih _

/-- The plugin is accepted at the first look, and stays so while others do something. -/
lemma of_step_accepted (hstage : (q.step id event).stage = .accepted) :
    (∃ operation, event = .operation operation ∧ q.stage = .accepted) ∨
      event = .proceed ∧ q.registry.contains id = true := by
  cases event with
  | operation operation => exact .inl ⟨operation, rfl, hstage⟩
  | proceed =>
    simp only [step, proceed] at hstage
    split at hstage
    · rcases hcontains : q.registry.contains id with _ | _
      · simp [hcontains] at hstage
      · exact .inr ⟨rfl, rfl⟩
    · cases hstage
    · next hanswered =>
      rw [hanswered] at hstage
      cases hstage

/-- Once the plugin was accepted, the registry is one that accepts calls, and nothing is under the
number but an entry that is enabled. -/
def Sound (id : PluginId) (q : Query) : Prop :=
  q.stage = .accepted → q.registry.enabled = true ∧
    ∀ entry, q.registry.get? id = some entry → entry.enabled = true

lemma Sound.step (hsound : q.Sound id) (event : Event) : (q.step id event).Sound id := by
  intro hstage
  rcases of_step_accepted hstage with ⟨operation, rfl, hbefore⟩ | ⟨rfl, hcontains⟩
  · obtain ⟨hon, henabled⟩ := hsound hbefore
    exact ⟨(enabled_apply q.registry operation).trans hon,
      (turns_apply q.registry id operation).enabled henabled⟩
  · obtain ⟨hon, entry, hentry, henabled⟩ := contains_iff.1 hcontains
    rw [Query.step, registry_proceed]
    refine ⟨hon, fun other hother => ?_⟩
    obtain rfl := Option.some.inj (hentry.symm.trans hother)
    exact henabled

lemma Sound.run (hsound : q.Sound id) (events : List Event) : (q.run id events).Sound id := by
  induction events generalizing q with
  | nil => exact hsound
  | cons event events ih => exact ih (hsound.step event)

/-- A name comes from an entry, and is read when the plugin has been accepted. -/
lemma of_step_answered (hname : (q.step id event).stage = .answered (some name)) :
    q.stage = .answered (some name) ∨ event = .proceed ∧ q.stage = .accepted ∧
      ∃ entry, q.registry.get? id = some entry ∧ entry.info.name = name := by
  cases event with
  | operation operation => exact .inl hname
  | proceed =>
    simp only [step, proceed] at hname
    split at hname
    · -- the first look gives no name
      rcases hcontains : q.registry.contains id with _ | _ <;> simp [hcontains] at hname
    · next hstage =>
      rw [Stage.answered.injEq, Option.map_eq_some_iff] at hname
      exact .inr ⟨rfl, hstage, hname⟩
    · exact .inl hname

/-- A name that was answered is that of an entry which was enabled when it was read. -/
lemma exists_read (hname : ((start r).run id events).stage = .answered (some name)) :
    ∃ earlier later, events = earlier ++ .proceed :: later ∧
      ((start r).run id earlier).stage = .accepted ∧
      (r.run (operations earlier)).enabled = true ∧
      ∃ entry, (r.run (operations earlier)).get? id = some entry ∧ entry.enabled = true ∧
        entry.info.name = name := by
  induction events using List.reverseRecOn with
  | nil => cases hname
  | append_singleton events event ih =>
    rw [run_concat] at hname
    rcases of_step_answered hname with hbefore | ⟨rfl, hstage, entry, hentry, hnamed⟩
    · obtain ⟨earlier, later, rfl, hread⟩ := ih hbefore
      exact ⟨earlier, later ++ [event], by simp, hread⟩
    · have hsound : (start r).Sound id := nofun
      obtain ⟨hon, henabled⟩ := hsound.run events hstage
      rw [registry_run] at hon henabled hentry
      exact ⟨events, [], rfl, hstage, hon, entry, hentry, henabled entry hentry, hnamed⟩

/-- An answer is not changed any more. -/
lemma stage_run_of_answered {name? : Option String} (hstage : q.stage = .answered name?)
    (events : List Event) : (q.run id events).stage = .answered name? := by
  induction events generalizing q with
  | nil => exact hstage
  | cons event events ih =>
    refine ih ?_
    cases event with
    | operation operation => exact hstage
    | proceed => rw [step, proceed, hstage, hstage]

/-- A question that begins after some operations begins with the registry that they leave. -/
lemma run_start (r : Registry) (id : PluginId) (before : List Operation) (events : List Event) :
    (start r).run id (before.map .operation ++ events) = (start (r.run before)).run id events := by
  induction before generalizing r with
  | nil => rfl
  | cons operation before ih => exact ih (r.apply operation)

/-- If nothing is done in between, the answer is the name at this moment. -/
lemma stage_run_alone (r : Registry) (id : PluginId) :
    ((start r).run id [.proceed, .proceed]).stage = .answered (r.nameOf id) := by
  rcases hcontains : r.contains id with _ | _ <;>
    simp [run, step, proceed, start, nameOf, get?, hcontains]

lemma stage_run_of_not_contains (hnot : r.contains id = false) (later : List Event) :
    ((start r).run id (.proceed :: later)).stage = .answered none := by
  refine stage_run_of_answered (q := (start r).step id .proceed) ?_ later
  simp [step, proceed, start, hnot]

/-- Calls of a plugin that is listed as not enabled are not accepted until it is forgotten. -/
lemma contains_eq_false_of_listed {plugin : RegisteredPlugin}
    (hplugin : latest RegisteredPlugin.id id config.registered = some plugin)
    (hdisabled : plugin.enabled = false) {before : List Operation}
    (hkept : .unregister id ∉ before) : ((ofConfig config).run before).contains id = false := by
  rw [← Bool.not_eq_true, contains_iff, enabled_run]
  rintro ⟨hon, entry, hentry, henabled⟩
  have hseed : (ofConfig config).get? id = some (seedEntry plugin) := by
    rw [get?, getElem?_ofConfig hon, hplugin, Option.map_some]
  obtain ⟨entry', hentry', hdisabled'⟩ := disabled_run hseed hdisabled hkept
  obtain rfl := Option.some.inj (hentry.symm.trans hentry')
  rw [henabled] at hdisabled'
  cases hdisabled'

/-- **A name that is given is one of a plugin whose calls are accepted.**  Whatever the
configuration lists, and however the two looks into the registry fall among what is done to it, a
name is that of an entry that was there and enabled when it was read, in a registry that was
switched on; and if the entry was there from the configuration, it belonged to a plugin that is
listed as enabled.  For a plugin that is listed as not enabled and has not been forgotten when the
question begins, the answer is that there is no name, whatever happens then.  With nothing in
between the two looks the answer is the name at this moment. -/
theorem run_answered (config : PluginsConfig) (id : PluginId) :
    let asked (events : List Event) := (start (ofConfig config)).run id events
    (∀ events name, (asked events).stage = .answered (some name) →
      ∃ earlier later, events = earlier ++ .proceed :: later ∧ (asked earlier).stage = .accepted ∧
        let r := (ofConfig config).run (operations earlier)
        r.enabled = true ∧ ∃ entry, r.get? id = some entry ∧ entry.enabled = true ∧
          entry.info.name = name ∧
          (entry.info.origin = .config → ∃ plugin,
            latest RegisteredPlugin.id id config.registered = some plugin ∧
            plugin.enabled = true ∧ plugin.name = name)) ∧
    (∀ plugin (before : List Operation) later,
      latest RegisteredPlugin.id id config.registered = some plugin →
      plugin.enabled = false → .unregister id ∉ before →
      (asked (before.map .operation ++ .proceed :: later)).stage = .answered none) ∧
    ∀ before : List Operation, (asked (before.map .operation ++ [.proceed, .proceed])).stage =
      .answered (((ofConfig config).run before).nameOf id) := by
  intro asked
  refine ⟨fun events name hname => ?_, fun plugin before later hplugin hdisabled hkept => ?_,
    fun before => ?_⟩
  · obtain ⟨earlier, later, hevents, hstage, hon, entry, hentry, henabled, hnamed⟩ :=
      exists_read hname
    refine ⟨earlier, later, hevents, hstage, hon, entry, hentry, henabled, hnamed, ?_⟩
    intro horigin
    obtain ⟨plugin, hplugin, hsame, hname⟩ := listed_run config _ entry hentry horigin
    exact ⟨plugin, hplugin, hsame.trans henabled, hname.trans hnamed⟩
  · simp only [asked, run_start]
    exact stage_run_of_not_contains (contains_eq_false_of_listed hplugin hdisabled hkept) later
  · simp only [asked, run_start, stage_run_alone]

/-- The plugin is accepted, and when its name is read its number belongs to another one.  That one
is answered, and it is not one of the configuration. -/
theorem run_answered_replaced :
    let config : PluginsConfig := ⟨true, [⟨0, "Link", none, true⟩, ⟨2, "Muted", none, false⟩]⟩
    let asked (id : PluginId) (events : List Event) := (start (ofConfig config)).run id events
    let scout : Event := .operation (.register "Scout" none)
    let events := [.proceed, .operation (.unregister 0), scout, .proceed]
    (asked 0 events).stage = .answered (some "Scout") ∧
    (∃ earlier later, events = earlier ++ .proceed :: later ∧
      ∃ entry, ((ofConfig config).run (operations earlier)).get? 0 = some entry ∧
        entry.enabled = true ∧ entry.info.name = "Scout" ∧ entry.info.origin ≠ .config) ∧
    (asked 2 [scout, .proceed, .operation (.unregister 2), scout, .proceed]).stage =
      .answered none := by
  intro config asked scout events
  obtain ⟨hread, -⟩ := run_answered config 0
  obtain ⟨-, hnone, -⟩ := run_answered config 2
  have hname : (asked 0 events).stage = .answered (some "Scout") := by decide
  obtain ⟨earlier, later, hevents, -, -, entry, hentry, henabled, hnamed, hlisted⟩ :=
    hread events "Scout" hname
  refine ⟨hname, ⟨earlier, later, hevents, entry, hentry, henabled, hnamed, fun horigin => ?_⟩, ?_⟩
  · obtain ⟨plugin, hplugin, -, hscout⟩ := hlisted horigin
    obtain rfl : plugin = ⟨0, "Link", none, true⟩ := (Option.some.inj hplugin).symm
    exact absurd hscout (by decide)
  · exact hnone ⟨2, "Muted", none, false⟩ [.register "Scout" none] _ rfl rfl (by decide)

end Query

end Registry

end PluginHost
