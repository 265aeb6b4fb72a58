/-
# Writing configurations

A configuration is written with all that it says, whether that is a default or not, in a fixed
order.  The two things that can be absent are the version of a plugin and the older key of the
noise cancelling; they are left out then.
-/
import PluginHost.Config
import PluginHost.Toml.Written

namespace PluginHost

/-- The lines for a listed plugin. -/
def RegisteredPlugin.written (plugin : RegisteredPlugin) : List Char :=
  "\n[[plugins.registered]]\n".toList
    ++ Toml.Written.entry "id" (Toml.Written.integer plugin.id.toNat)
    ++ Toml.Written.entry "name" (Toml.Written.text plugin.name)
    ++ (match plugin.version with
      | none => []
      | some version => Toml.Written.entry "version" (Toml.Written.text version))
    ++ Toml.Written.entry "enabled" (Toml.Written.flag plugin.enabled)

/-- The lines for the plugins. -/
def PluginsConfig.written (plugins : PluginsConfig) : List Char :=
  "[plugins]\n".toList
    ++ Toml.Written.entry "enabled" (Toml.Written.flag plugins.enabled)
    ++ (match plugins.registered with
      | [] => Toml.Written.entry "registered" ['[', ']']
      | registered => registered.flatMap RegisteredPlugin.written)

/-- The lines for the sound. -/
def AudioConfig.written (audio : AudioConfig) : List Char :=
  "[audio]\n".toList
    ++ Toml.Written.entry "voice_hold" (Toml.Written.integer audio.voiceHold.toInt)
    ++ Toml.Written.entry "vad_min" (Toml.Written.number audio.vadMin)
    ++ Toml.Written.entry "vad_max" (Toml.Written.number audio.vadMax)
    ++ Toml.Written.entry "min_distance" (Toml.Written.number audio.minDistance)
    ++ Toml.Written.entry "max_distance" (Toml.Written.number audio.maxDistance)
    ++ Toml.Written.entry "bloom" (Toml.Written.number audio.bloom)
    ++ Toml.Written.entry "max_distance_volume" (Toml.Written.number audio.maxDistanceVolume)
    ++ Toml.Written.entry "transmit" (Toml.Written.text audio.transmit.name)
    ++ Toml.Written.entry "noise_cancel_strength"
      (Toml.Written.integer audio.noiseCancelStrength.toInt)
    ++ (match audio.noiseSuppress with
      | none => []
      | some strength =>
        Toml.Written.entry "noise_suppress" (Toml.Written.integer strength.toInt))

/-- The text of a configuration. -/
def Config.render (config : Config) : String :=
  String.ofList <|
    "[logging]\n".toList ++ Toml.Written.entry "level" (Toml.Written.text config.level)
      ++ ['\n'] ++ config.plugins.written
      ++ ['\n'] ++ config.audio.written

end PluginHost
