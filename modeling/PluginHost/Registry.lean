/-
# The registry of plugins

The registry knows the plugins by their numbers.  It begins with those of the configuration;
others are registered while the host runs and get the smallest number that is free.  A call is
accepted from a plugin whose entry is enabled, as long as the whole plugin system is.
-/
import Std.Data.TreeMap
import PluginHost.Config
import PluginHost.Status
import PluginHost.Version

namespace PluginHost

/-- How a plugin came into the registry. -/
inductive PluginOrigin where
  /-- The configuration lists it. -/
  | config
  /-- It was registered while the host ran. -/
  | runtime
deriving DecidableEq, Repr

namespace PluginOrigin

/-- The name of an origin in listings. -/
def name : PluginOrigin → String
  | config => "config"
  | runtime => "runtime"

/-- The origin with a name. -/
def ofName? (name : String) : Option PluginOrigin :=
  if name = "config" then some config
  else if name = "runtime" then some runtime
  else none

theorem ofName?_name (origin : PluginOrigin) : ofName? origin.name = some origin := by
  cases origin <;> rfl

end PluginOrigin

/-- What the host knows about a plugin. -/
structure PluginInfo where
  /-- The number of the plugin. -/
  id : PluginId
  /-- The name of the plugin. -/
  name : String
  /-- The plugin's own version. -/
  version : Option String
  /-- The version of the interface that the plugin asked for. -/
  apiVersion : Option Version
  /-- How it came into the registry. -/
  origin : PluginOrigin
deriving DecidableEq, Repr

/-- An entry of the registry. -/
structure PluginEntry where
  /-- What is known about the plugin. -/
  info : PluginInfo
  /-- Whether its calls are accepted. -/
  enabled : Bool
deriving DecidableEq, Repr

/-- The function tables that plugins are given. -/
inductive ApiTable where
  /-- The table of interface 1.0. -/
  | v1_0
  /-- The table of interface 1.2, in which samples have a volume. -/
  | v1_2
deriving DecidableEq, Repr

namespace ApiTable

/-- The version of a table. -/
def version : ApiTable → Version
  | v1_0 => ⟨1, 0, 0⟩
  | v1_2 => ⟨1, 2, 0⟩

/-- The table for a plugin that was made for a version of the interface. -/
def for? (v : Version) : CallResult ApiTable :=
  if v.major = 1 ∧ (v.minor = 0 ∨ v.minor = 1) then .ok v1_0
  else if v.major = 1 ∧ v.minor = 2 then .ok v1_2
  else .error .invalidApiVersion

end ApiTable

/-- The plugins that the host knows. -/
structure Registry where
  /-- Whether calls are accepted at all. -/
  enabled : Bool
  /-- The entries, by number. -/
  entries : Std.TreeMap PluginId PluginEntry

namespace Registry

/-- The entry for a plugin that the configuration lists. -/
def seedEntry (plugin : RegisteredPlugin) : PluginEntry :=
  ⟨⟨plugin.id, plugin.name, plugin.version, none, .config⟩, plugin.enabled⟩

/-- The registry that a configuration gives.  Of two plugins with one number the later one
stays; when there are no plugins at all, the list is not read. -/
def ofConfig (config : PluginsConfig) : Registry where
  enabled := config.enabled
  entries :=
    if config.enabled then
      config.registered.foldl (fun entries plugin => entries.insert plugin.id (seedEntry plugin)) ∅
    else ∅

/-- The last number a plugin can have. -/
def lastId : PluginId := UInt32.ofNat (UInt32.size - 1)

/-- The smallest number from `candidate` to `last` that is missing in an ascending list of
numbers that begins at `candidate` or later; `none` when none of them is missing. -/
def lowestUnused (last candidate : PluginId) : List PluginId → Option PluginId
  | [] => some candidate
  | id :: ids =>
    if id ≠ candidate then some candidate
    else if candidate = last then none
    else lowestUnused last (candidate + 1) ids

/-- The entry for a plugin that is registered while the host runs. -/
def runtimeEntry (id : PluginId) (name : String) (version : Option String) : PluginEntry :=
  ⟨⟨id, name, version, none, .runtime⟩, true⟩

/-- Registers a plugin under the smallest free number; `none` when all numbers are taken. -/
def register (r : Registry) (name : String) (version : Option String) :
    Option (PluginId × Registry) := do
  let id ← lowestUnused lastId 0 r.entries.keys
  return (id, { r with entries := r.entries.insert id (runtimeEntry id name version) })

/-- Forgets a plugin, and returns its entry. -/
def unregister (r : Registry) (id : PluginId) : Option PluginEntry × Registry :=
  (r.entries[id]?, { r with entries := r.entries.erase id })

/-- Finds the table for a plugin, and notes the version it asked for. -/
def bindApi (r : Registry) (id : PluginId) (version : Version) :
    CallResult (ApiTable × Registry) := do
  let table ← ApiTable.for? version
  match r.entries[id]? with
  | none => return (table, r)
  | some entry =>
    let bound := { entry with info := { entry.info with apiVersion := some version } }
    return (table, { r with entries := r.entries.insert id bound })

/-- The entry of a plugin. -/
def get? (r : Registry) (id : PluginId) : Option PluginEntry := r.entries[id]?

/-- The first plugin with a name. -/
def findByName (r : Registry) (name : String) : Option PluginId :=
  (r.entries.values.find? fun entry => entry.info.name = name).map fun entry => entry.info.id

/-- What is known about the plugins, in ascending order. -/
def infos (r : Registry) : List PluginInfo := r.entries.values.map PluginEntry.info

/-- Whether calls of a plugin are accepted. -/
def contains (r : Registry) (id : PluginId) : Bool :=
  r.enabled && (r.entries[id]?.map PluginEntry.enabled).getD false

/-- The name of a plugin whose calls are accepted. -/
def nameOf (r : Registry) (id : PluginId) : Option String :=
  if r.contains id then r.entries[id]?.map fun entry => entry.info.name else none

end Registry
end PluginHost
