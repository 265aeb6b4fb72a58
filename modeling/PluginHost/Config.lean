/-
# Configuration

What the host is told when it starts: what is logged, which plugins are known, and how the
microphone and the speaker are set.  A value of this type is what a configuration file says
after all that it leaves out has been filled in.
-/
import PluginHost.Identity
import PluginHost.Transmission
import PluginHost.Number.Binary
import PluginHost.Text.Blank

namespace PluginHost

/-- A plugin that the configuration lists. -/
structure RegisteredPlugin where
  /-- The number of the plugin. -/
  id : PluginId
  /-- The name of the plugin. -/
  name : String
  /-- The plugin's own version. -/
  version : Option String
  /-- Whether its calls are accepted. -/
  enabled : Bool
deriving DecidableEq, Repr

/-- The part of the configuration that is about plugins. -/
structure PluginsConfig where
  /-- Whether there are plugins at all. -/
  enabled : Bool
  /-- The plugins known from the beginning. -/
  registered : List RegisteredPlugin
deriving DecidableEq, Repr

/-- The part of the configuration that is about sound. -/
structure AudioConfig where
  /-- How long the microphone stays open behind the voice, in hundredths of a second. -/
  voiceHold : Int32
  /-- The level below which there is silence. -/
  vadMin : Binary32
  /-- The level above which there is speech. -/
  vadMax : Binary32
  /-- The distance up to which a voice has its full volume. -/
  minDistance : Binary32
  /-- The distance from which on a voice has its least volume. -/
  maxDistance : Binary32
  /-- How much louder a voice is up close. -/
  bloom : Binary32
  /-- The least volume of a distant voice. -/
  maxDistanceVolume : Binary32
  /-- How the microphone is activated. -/
  transmit : TransmissionMode
  /-- How strongly noise is cancelled, in decibels. -/
  noiseCancelStrength : Int32
  /-- The same under the key of older files. -/
  noiseSuppress : Option Int32
deriving DecidableEq, Repr

/-- What a configuration file says. -/
structure Config where
  /-- Which diagnostics are written. -/
  level : String
  /-- The plugins. -/
  plugins : PluginsConfig
  /-- The sound. -/
  audio : AudioConfig
deriving DecidableEq, Repr

namespace RegisteredPlugin

/-- Whether the calls of a listed plugin are accepted if nothing is said. -/
def defaultEnabled : Bool := true

end RegisteredPlugin

namespace PluginsConfig

/-- What holds for plugins if nothing is said. -/
def default : PluginsConfig := ⟨true, []⟩

end PluginsConfig

namespace AudioConfig

/-- What holds for sound if nothing is said. -/
def default : AudioConfig where
  voiceHold := 50
  vadMin := .ofDecimal false 80 (-2)
  vadMax := .ofDecimal false 98 (-2)
  minDistance := .ofDecimal false 1 0
  maxDistance := .ofDecimal false 15 0
  bloom := .ofDecimal false 5 (-1)
  maxDistanceVolume := .ofDecimal false 80 (-2)
  transmit := .voiceActivation
  noiseCancelStrength := -30
  noiseSuppress := none

/-- How strongly noise is cancelled: the stronger of what the two keys say, where the older
one says nothing if it is missing. -/
def effectiveNoiseCancelStrength (a : AudioConfig) : Int32 :=
  min (a.noiseSuppress.getD 0) a.noiseCancelStrength

/-- Equality of what is said, where numbers are compared by value. -/
def sameAs (a b : AudioConfig) : Bool :=
  a.voiceHold == b.voiceHold && a.vadMin.numEq b.vadMin && a.vadMax.numEq b.vadMax
    && a.minDistance.numEq b.minDistance && a.maxDistance.numEq b.maxDistance
    && a.bloom.numEq b.bloom && a.maxDistanceVolume.numEq b.maxDistanceVolume
    && a.transmit == b.transmit && a.noiseCancelStrength == b.noiseCancelStrength
    && a.noiseSuppress == b.noiseSuppress

end AudioConfig

/-- What can be wrong with a configuration that could be read. -/
inductive ConfigError where
  /-- Two plugins have one number. -/
  | duplicatePlugin (id : PluginId)
  /-- A plugin has no name but white space. -/
  | emptyPluginName (id : PluginId)
deriving DecidableEq, Repr

namespace ConfigError

/-- What a person is told. -/
def message : ConfigError → String
  | duplicatePlugin id => s!"plugin id {id} is registered more than once"
  | emptyPluginName id => s!"plugin {id} has an empty name"

end ConfigError

namespace Config

/-- What holds if nothing is said. -/
def default : Config := ⟨"info", .default, .default⟩

/-- Checks the plugins that follow those with the numbers `seen`. -/
def validateFrom (seen : List PluginId) : List RegisteredPlugin → Except ConfigError Unit
  | [] => .ok ()
  | plugin :: rest =>
    if plugin.id ∈ seen then .error (.duplicatePlugin plugin.id)
    else if Blank.isBlankText plugin.name then .error (.emptyPluginName plugin.id)
    else validateFrom (plugin.id :: seen) rest

/-- Checks that the plugins have different numbers, and names. -/
def validate (c : Config) : Except ConfigError Unit := validateFrom [] c.plugins.registered

/-- Equality of what is said, where numbers are compared by value. -/
def sameAs (a b : Config) : Bool :=
  a.level == b.level && a.plugins == b.plugins && a.audio.sameAs b.audio

end Config
end PluginHost
