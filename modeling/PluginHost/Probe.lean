/-
# Probing a snapshot

A probe takes a configuration and a snapshot, brings up a host with a session like the one in
the snapshot, and has one plugin sweep over it.  The plugin is one of the configuration, chosen
by number or by name; if no plugin has the name, one is registered for the probe.
-/
import PluginHost.Json.Written
import PluginHost.Probe.Sweep
import PluginHost.Snapshot

namespace PluginHost

/-- What is to be probed. -/
structure Probe where
  /-- The file with the snapshot. -/
  session : String
  /-- The number of the plugin, if it is chosen by number. -/
  plugin : Option PluginId
  /-- The name of the plugin otherwise. -/
  name : String
deriving DecidableEq, Repr

/-- Why there is no report. -/
inductive ProbeError where
  /-- The snapshot cannot be used. -/
  | snapshot (reason : SnapshotError)
  /-- There are no plugins. -/
  | disabled
  /-- No plugin has the number. -/
  | notRegistered (plugin : PluginId)
  /-- Every number is taken. -/
  | noNumberLeft
  /-- The interface is not offered. -/
  | notBound (code : ErrorCode)
deriving DecidableEq, Repr

/-- What a person is told: what could not be done, and why. -/
def ProbeError.messages : ProbeError → List String
  | snapshot reason => reason.messages
  | disabled => ["the plugin system is disabled; set [plugins] enabled = true"]
  | notRegistered plugin =>
    [s!"plugin {plugin} is not registered; add it under [[plugins.registered]]"]
  | noNumberLeft => ["failed to register probe plugin", "every plugin id is in use"]
  | notBound code => [s!"failed to bind API table: {code.message}"]

namespace Probe

/-- The name under which a plugin is registered if none is given. -/
def defaultName : String := "voxlink-probe"

/-- The version of this program, which is also that of the plugin registered for a probe. -/
def programVersion : String := "0.1.7"

/-- The version of the interface that a probe is made for. -/
def interfaceVersion : Version := ⟨1, 2, 0⟩

/-- Finds the plugin, or registers one. -/
def choose (p : Probe) (registry : Registry) : Except ProbeError (PluginId × Registry) :=
  match p.plugin.or (registry.findByName p.name) with
  | some id =>
    if (registry.get? id).isSome then .ok (id, registry) else .error (.notRegistered id)
  | none =>
    match registry.register p.name (some programVersion) with
    | none => .error .noNumberLeft
    | some found => .ok found

/-- A host with a session as in the snapshot. -/
def host (config : Config) (registry : Registry) (snapshot : Snapshot) (blobs : BlobStore)
    (link : Link) : Host :=
  let started : Host :=
    { Host.new registry (.ofConfig config.audio) with
      blobs := blobs
      client := some []
      audio := some ⟨.empty, []⟩ }
  started.join link snapshot.directory snapshot.localUser

/-- Probes a snapshot. -/
def runOn (p : Probe) (config : Config) (snapshot : Snapshot) : Except ProbeError Report := do
  let registry := Registry.ofConfig config.plugins
  if !registry.enabled then throw .disabled
  let (plugin, registry) ← p.choose registry
  let (table, registry) ← (registry.bindApi plugin interfaceVersion).mapError .notBound
  let blobs ← snapshot.blobStore.mapError .snapshot
  let link ← snapshot.link.mapError .snapshot
  return Sweep.run ⟨table, plugin⟩ ⟨host config registry snapshot blobs link, true⟩

/-- Probes the snapshot in a file. -/
def run (p : Probe) (files : FileView) (config : Config) : Except ProbeError Report :=
  match Snapshot.load files p.session with
  | .error reason => .error (.snapshot reason)
  | .ok snapshot => p.runOn config snapshot

end Probe

/-! ## Writing reports -/

/-- A result as it is written. -/
def CallResult.listed {α : Type} (value : α → Json.Written) (result : CallResult α) :
    Json.Written :=
  .result value (result.mapError ErrorCode.message)

/-- What was found out about a user, as it is written. -/
def UserReport.listed (r : UserReport) : Json.Written :=
  .record [("id", .integer r.id.toNat), ("name", CallResult.listed .text r.name),
    ("channel", CallResult.listed (fun id => .integer id.toInt) r.channel),
    ("comment", CallResult.listed .text r.comment)]

/-- What was found out about a channel, as it is written. -/
def ChannelReport.listed (r : ChannelReport) : Json.Written :=
  .record [("id", .integer r.id.toInt), ("name", CallResult.listed .text r.name),
    ("members", CallResult.listed
      (fun ids => .list (ids.map fun id => .integer id.toNat)) r.members)]

/-- A report as it is written. -/
def Report.listed (r : Report) : Json.Written :=
  .record [
    ("plugin", .integer r.plugin.toNat),
    ("connection", .integer r.connection.toInt),
    ("synchronized", CallResult.listed .flag r.synchronized),
    ("local_user", CallResult.listed (fun id => .integer id.toNat) r.localUser),
    ("server_hash", CallResult.listed .text r.serverHash),
    ("transmission_mode", CallResult.listed (fun mode => .integer mode.raw.toInt)
      r.transmissionMode),
    ("users", .list (r.users.map UserReport.listed)),
    ("channels", .list (r.channels.map ChannelReport.listed)),
    ("leaks", .integer r.leaks)]

/-- The text of a report. -/
def Report.render (r : Report) : String := Json.Written.render r.listed

end PluginHost
