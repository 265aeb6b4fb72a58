/-
# Transmission modes

How the microphone of the local user is activated.  A mode crosses the plugin boundary as a
number and stands in files by its name.
-/

namespace PluginHost

/-- How the microphone of the local user is activated. -/
inductive TransmissionMode where
  /-- It is always open. -/
  | continuous
  /-- It opens with the voice. -/
  | voiceActivation
  /-- It opens while a key is held. -/
  | pushToTalk
deriving DecidableEq, Repr

namespace TransmissionMode

/-- The number of a mode. -/
def raw : TransmissionMode → Int32
  | continuous => 0
  | voiceActivation => 1
  | pushToTalk => 2

/-- The mode with a number. -/
def ofRaw? (raw : Int32) : Option TransmissionMode :=
  if raw = 0 then some continuous
  else if raw = 1 then some voiceActivation
  else if raw = 2 then some pushToTalk
  else none

/-- The name of a mode in files. -/
def name : TransmissionMode → String
  | continuous => "continuous"
  | voiceActivation => "voice_activation"
  | pushToTalk => "push_to_talk"

/-- The mode with a name. -/
def ofName? (name : String) : Option TransmissionMode :=
  if name = "continuous" then some continuous
  else if name = "voice_activation" then some voiceActivation
  else if name = "push_to_talk" then some pushToTalk
  else none

theorem ofRaw?_raw (mode : TransmissionMode) : ofRaw? mode.raw = some mode := by
  cases mode <;> rfl

theorem ofName?_name (mode : TransmissionMode) : ofName? mode.name = some mode := by
  cases mode <;> rfl

end TransmissionMode
end PluginHost
