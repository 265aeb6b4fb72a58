/-
# Audio settings

The settings of the client that plugins can see.  Seven of them have a key and can be read and
written through it: the key fixes the type, integers are cut to the range that is stored and
doubles are stored with single precision.  The others change only by requests of their own.
-/
import PluginHost.Config
import PluginHost.Status

namespace PluginHost

/-- The key of a setting. -/
inductive SettingsKey where
  /-- No setting has this key. -/
  | invalid
  /-- How long the microphone stays open behind the voice. -/
  | voiceHold
  /-- The level below which there is silence. -/
  | vadSilenceThreshold
  /-- The level above which there is speech. -/
  | vadSpeechThreshold
  /-- The distance up to which a voice has its full volume. -/
  | positionalMinimumDistance
  /-- The distance from which on a voice has its least volume. -/
  | positionalMaximumDistance
  /-- How much louder a voice is up close. -/
  | positionalBloom
  /-- The least volume of a distant voice. -/
  | positionalMinimumVolume
deriving DecidableEq, Repr

namespace SettingsKey

/-- The number of a key. -/
def raw : SettingsKey → Int32
  | invalid => -1
  | voiceHold => 0
  | vadSilenceThreshold => 1
  | vadSpeechThreshold => 2
  | positionalMinimumDistance => 3
  | positionalMaximumDistance => 4
  | positionalBloom => 5
  | positionalMinimumVolume => 6

/-- The name of a key in listings. -/
def name : SettingsKey → String
  | invalid => "Invalid"
  | voiceHold => "VoiceHold"
  | vadSilenceThreshold => "VadSilenceThreshold"
  | vadSpeechThreshold => "VadSpeechThreshold"
  | positionalMinimumDistance => "PositionalMinimumDistance"
  | positionalMaximumDistance => "PositionalMaximumDistance"
  | positionalBloom => "PositionalBloom"
  | positionalMinimumVolume => "PositionalMinimumVolume"

/-- The key with a number; a number of no setting gives the invalid key. -/
def ofRaw (raw : Int32) : SettingsKey :=
  if raw = 0 then voiceHold
  else if raw = 1 then vadSilenceThreshold
  else if raw = 2 then vadSpeechThreshold
  else if raw = 3 then positionalMinimumDistance
  else if raw = 4 then positionalMaximumDistance
  else if raw = 5 then positionalBloom
  else if raw = 6 then positionalMinimumVolume
  else invalid

theorem ofRaw_raw (key : SettingsKey) : ofRaw key.raw = key := by
  cases key <;> rfl

end SettingsKey

/-- A value under a key.  Values of different types are never taken for each other. -/
inductive SettingValue where
  /-- A flag. -/
  | bool (value : Bool)
  /-- An integer. -/
  | int (value : Int64)
  /-- A double. -/
  | double (value : Binary64)
  /-- A text. -/
  | string (value : String)
deriving DecidableEq, Repr

/-- The audio settings, together with the state of the local microphone and speaker. -/
structure AudioSettings where
  /-- How long the microphone stays open behind the voice, in hundredths of a second. -/
  voiceHold : Int32
  /-- The level below which there is silence. -/
  vadMin : Binary32
  /-- The level above which there is speech. -/
  vadMax : Binary32
  /-- The distance up to which a voice has its full volume. -/
  minDistance : Binary32
  /-- The distance from which on a voice has its least volume. -/
  maxDistance : Binary32
  /-- How much louder a voice is up close. -/
  bloom : Binary32
  /-- The least volume of a distant voice. -/
  maxDistanceVolume : Binary32
  /-- How the microphone is activated. -/
  transmit : TransmissionMode
  /-- Whether the local user is muted. -/
  mute : Bool
  /-- Whether the local user is deafened. -/
  deaf : Bool
  /-- Whether a plugin holds the microphone open. -/
  microphoneOverwrite : Bool
  /-- How strongly noise is cancelled, in decibels. -/
  noiseCancelStrength : Int32
deriving DecidableEq, Repr

namespace AudioSettings

/-- The settings with which the host starts. -/
def ofConfig (c : AudioConfig) : AudioSettings where
  voiceHold := c.voiceHold
  vadMin := c.vadMin
  vadMax := c.vadMax
  minDistance := c.minDistance
  maxDistance := c.maxDistance
  bloom := c.bloom
  maxDistanceVolume := c.maxDistanceVolume
  transmit := c.transmit
  mute := false
  deaf := false
  microphoneOverwrite := false
  noiseCancelStrength := c.effectiveNoiseCancelStrength

/-- The integer of thirty-two bits nearest to one of sixty-four. -/
def saturate (n : Int64) : Int32 :=
  if n < Int32.minValue.toInt64 then Int32.minValue
  else if Int32.maxValue.toInt64 < n then Int32.maxValue
  else n.toInt32

/-- The value under a key, in the type in which plugins see it. -/
def get (s : AudioSettings) : SettingsKey → Option SettingValue
  | .invalid => none
  | .voiceHold => some (.int s.voiceHold.toInt64)
  | .vadSilenceThreshold => some (.double s.vadMin.widen)
  | .vadSpeechThreshold => some (.double s.vadMax.widen)
  | .positionalMinimumDistance => some (.double s.minDistance.widen)
  | .positionalMaximumDistance => some (.double s.maxDistance.widen)
  | .positionalBloom => some (.double s.bloom.widen)
  | .positionalMinimumVolume => some (.double s.maxDistanceVolume.widen)

/-- The settings with a new value under a key. -/
def set (s : AudioSettings) (key : SettingsKey) (value : SettingValue) :
    CallResult AudioSettings :=
  match key, value with
  | .invalid, _ => .error .unknownSettingsKey
  | .voiceHold, .int n => .ok { s with voiceHold := saturate n }
  | .vadSilenceThreshold, .double x => .ok { s with vadMin := x.narrow }
  | .vadSpeechThreshold, .double x => .ok { s with vadMax := x.narrow }
  | .positionalMinimumDistance, .double x => .ok { s with minDistance := x.narrow }
  | .positionalMaximumDistance, .double x => .ok { s with maxDistance := x.narrow }
  | .positionalBloom, .double x => .ok { s with bloom := x.narrow }
  | .positionalMinimumVolume, .double x => .ok { s with maxDistanceVolume := x.narrow }
  | _, _ => .error .wrongSettingsType

end AudioSettings
end PluginHost
