/-
# Reading configurations

A configuration file may leave out anything that has a default.  A file that does not exist
leaves out everything; one that exists has to be readable, has to fit the shape of a
configuration, and has to be valid.
-/
import PluginHost.Config
import PluginHost.FileTree
import PluginHost.Toml.Shape

namespace PluginHost

/-- The shape of a listed plugin. -/
def RegisteredPlugin.ofItem? (item : Toml.Item) : Option RegisteredPlugin := do
  let record ← Toml.Record.ofItem? ["id", "name", "version", "enabled"] item
  return {
    id := ← record.field 0 "id" Toml.Shape.word none
    name := ← record.field 1 "name" Toml.Shape.text none
    version := ← record.field 2 "version" (Toml.Shape.present Toml.Shape.text) (some none)
    enabled := ← record.field 3 "enabled" Toml.Shape.flag (some defaultEnabled) }

/-- The shape of what is said about plugins. -/
def PluginsConfig.ofItem? (item : Toml.Item) : Option PluginsConfig := do
  let record ← Toml.Record.ofItem? ["enabled", "registered"] item
  return {
    enabled := ← record.field 0 "enabled" Toml.Shape.flag (some default.enabled)
    registered := ← record.field 1 "registered" (Toml.Shape.list RegisteredPlugin.ofItem?)
      (some default.registered) }

/-- The shape of what is said about sound. -/
def AudioConfig.ofItem? (item : Toml.Item) : Option AudioConfig := do
  let record ← Toml.Record.ofItem? ["voice_hold", "vad_min", "vad_max", "min_distance",
    "max_distance", "bloom", "max_distance_volume", "transmit", "noise_cancel_strength",
    "noise_suppress"] item
  return {
    voiceHold := ← record.field 0 "voice_hold" Toml.Shape.integer (some default.voiceHold)
    vadMin := ← record.field 1 "vad_min" Toml.Shape.number (some default.vadMin)
    vadMax := ← record.field 2 "vad_max" Toml.Shape.number (some default.vadMax)
    minDistance := ← record.field 3 "min_distance" Toml.Shape.number (some default.minDistance)
    maxDistance := ← record.field 4 "max_distance" Toml.Shape.number (some default.maxDistance)
    bloom := ← record.field 5 "bloom" Toml.Shape.number (some default.bloom)
    maxDistanceVolume := ← record.field 6 "max_distance_volume" Toml.Shape.number
      (some default.maxDistanceVolume)
    transmit := ← record.field 7 "transmit" (Toml.Shape.choice TransmissionMode.ofName?)
      (some default.transmit)
    noiseCancelStrength := ← record.field 8 "noise_cancel_strength" Toml.Shape.integer
      (some default.noiseCancelStrength)
    noiseSuppress := ← record.field 9 "noise_suppress"
      (Toml.Shape.present Toml.Shape.integer) (some default.noiseSuppress) }

/-- Why a configuration cannot be loaded. -/
inductive LoadError where
  /-- The file cannot be read. -/
  | unreadable (path : String) (reason : FileError)
  /-- The text is not that of a configuration. -/
  | malformed (path : String)
  /-- The configuration is not valid. -/
  | invalid (reason : ConfigError)
deriving DecidableEq, Repr

/-- What a person is told. -/
def LoadError.message : LoadError → String
  | unreadable path reason => s!"failed to read {path}: {reason.message}"
  | malformed path => s!"failed to parse {path}: TOML parse error"
  | invalid reason => reason.message

namespace Config

/-- The shape of what is said about diagnostics: which of them are written. -/
def levelOfItem? (item : Toml.Item) : Option String := do
  let record ← Toml.Record.ofItem? ["level"] item
  record.field 0 "level" Toml.Shape.text (some default.level)

/-- The shape of a configuration. -/
def ofItem? (item : Toml.Item) : Option Config := do
  let record ← Toml.Record.ofItem? ["logging", "plugins", "audio"] item
  return {
    level := ← record.field 0 "logging" levelOfItem? (some default.level)
    plugins := ← record.field 1 "plugins" PluginsConfig.ofItem? (some default.plugins)
    audio := ← record.field 2 "audio" AudioConfig.ofItem? (some default.audio) }

/-- The configuration that a text describes. -/
def parse (text : String) : Option Config := do
  let entries ← Toml.Document.read text
  ofItem? (.table .headed entries)

/-- The configuration in a file; `none` stands for a file that does not exist. -/
def load (files : FileView) (path : Option String) : Except LoadError Config :=
  match path.filter files.exists? with
  | none => .ok default
  | some path =>
    match files.readText path with
    | .error reason => .error (.unreadable path reason)
    | .ok text =>
      match parse text with
      | none => .error (.malformed path)
      | some config =>
        match config.validate with
        | .error reason => .error (.invalid reason)
        | .ok () => .ok config

end Config
end PluginHost
