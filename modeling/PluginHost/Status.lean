/-
# Status of a plugin call

A plugin call either succeeds or is refused with one of twenty-two codes.  Across the plugin
boundary the outcome is a single signed number: zero for success, the code's own number
otherwise.  `ErrorCode.ofRaw?` reads that number back.
-/

namespace PluginHost

/-- The reasons for which a plugin call is refused. -/
inductive ErrorCode where
  /-- The host itself is in no state to answer. -/
  | internalError
  /-- An argument is missing, or there is no value to give. -/
  | genericError
  /-- The address to be freed is not one of a lent buffer. -/
  | pointerNotFound
  /-- There is no server session. -/
  | noActiveConnection
  /-- No such user. -/
  | userNotFound
  /-- No such channel. -/
  | channelNotFound
  /-- The connection handle is not the one of the current session. -/
  | connectionNotFound
  /-- The number names no transmission mode. -/
  | unknownTransmissionMode
  /-- No audio output is attached. -/
  | audioNotAvailable
  /-- The sample cannot be played. -/
  | invalidSample
  /-- The caller is not an accepted plugin. -/
  | invalidPluginId
  /-- The local user cannot be muted locally. -/
  | invalidMuteTarget
  /-- The session does not know the local user yet. -/
  | connectionUnsynchronized
  /-- No table exists for the requested interface version. -/
  | invalidApiVersion
  /-- Only the hash of the text is known so far. -/
  | unsynchronizedBlob
  /-- The number names no setting. -/
  | unknownSettingsKey
  /-- The setting is of another type. -/
  | wrongSettingsType
  /-- The setting does not exist any more. -/
  | settingWasRemoved
  /-- The payload is longer than a transmission may be. -/
  | dataTooBig
  /-- The name of the payload is longer than it may be. -/
  | dataIdTooLong
  /-- The host did not answer within the time bound. -/
  | apiRequestTimeout
  /-- The server is too old for the operation. -/
  | operationUnsupportedByServer
deriving DecidableEq, Repr

namespace ErrorCode

/-- Every code, in ascending order of its number. -/
def all : List ErrorCode :=
  [internalError, genericError, pointerNotFound, noActiveConnection, userNotFound,
    channelNotFound, connectionNotFound, unknownTransmissionMode, audioNotAvailable,
    invalidSample, invalidPluginId, invalidMuteTarget, connectionUnsynchronized,
    invalidApiVersion, unsynchronizedBlob, unknownSettingsKey, wrongSettingsType,
    settingWasRemoved, dataTooBig, dataIdTooLong, apiRequestTimeout,
    operationUnsupportedByServer]

/-- The number by which a code crosses the plugin boundary.  Plugins compare these numbers,
so they never change. -/
def raw : ErrorCode → Int32
  | internalError => -2
  | genericError => -1
  | pointerNotFound => 1
  | noActiveConnection => 2
  | userNotFound => 3
  | channelNotFound => 4
  | connectionNotFound => 5
  | unknownTransmissionMode => 6
  | audioNotAvailable => 7
  | invalidSample => 8
  | invalidPluginId => 9
  | invalidMuteTarget => 10
  | connectionUnsynchronized => 11
  | invalidApiVersion => 12
  | unsynchronizedBlob => 13
  | unknownSettingsKey => 14
  | wrongSettingsType => 15
  | settingWasRemoved => 16
  | dataTooBig => 17
  | dataIdTooLong => 18
  | apiRequestTimeout => 19
  | operationUnsupportedByServer => 20

/-- The name of a code in listings. -/
def name : ErrorCode → String
  | internalError => "InternalError"
  | genericError => "GenericError"
  | pointerNotFound => "PointerNotFound"
  | noActiveConnection => "NoActiveConnection"
  | userNotFound => "UserNotFound"
  | channelNotFound => "ChannelNotFound"
  | connectionNotFound => "ConnectionNotFound"
  | unknownTransmissionMode => "UnknownTransmissionMode"
  | audioNotAvailable => "AudioNotAvailable"
  | invalidSample => "InvalidSample"
  | invalidPluginId => "InvalidPluginId"
  | invalidMuteTarget => "InvalidMuteTarget"
  | connectionUnsynchronized => "ConnectionUnsynchronized"
  | invalidApiVersion => "InvalidApiVersion"
  | unsynchronizedBlob => "UnsynchronizedBlob"
  | unknownSettingsKey => "UnknownSettingsKey"
  | wrongSettingsType => "WrongSettingsType"
  | settingWasRemoved => "SettingWasRemoved"
  | dataTooBig => "DataTooBig"
  | dataIdTooLong => "DataIdTooLong"
  | apiRequestTimeout => "ApiRequestTimeout"
  | operationUnsupportedByServer => "OperationUnsupportedByServer"

/-- What a person is told about a code. -/
def message : ErrorCode → String
  | internalError => "internal error"
  | genericError => "generic error"
  | pointerNotFound => "pointer not found"
  | noActiveConnection => "no active server connection"
  | userNotFound => "user not found"
  | channelNotFound => "channel not found"
  | connectionNotFound => "connection not found"
  | unknownTransmissionMode => "unknown transmission mode"
  | audioNotAvailable => "audio output not available"
  | invalidSample => "invalid sample"
  | invalidPluginId => "invalid plugin id"
  | invalidMuteTarget => "invalid mute target"
  | connectionUnsynchronized => "connection not yet synchronized"
  | invalidApiVersion => "invalid API version"
  | unsynchronizedBlob => "blob has not been synchronized yet"
  | unknownSettingsKey => "unknown settings key"
  | wrongSettingsType => "wrong type for settings key"
  | settingWasRemoved => "setting was removed"
  | dataTooBig => "data too big"
  | dataIdTooLong => "data id too long"
  | apiRequestTimeout => "API request timed out"
  | operationUnsupportedByServer => "operation unsupported by server"

theorem mem_all (code : ErrorCode) : code ∈ all := by
  cases code <;> decide

end ErrorCode

/-- The outcome of a plugin call: a value, or the code with which the call was refused. -/
abbrev CallResult (α : Type) := Except ErrorCode α

namespace Status

/-- The number of a successful call. -/
def ok : Int32 := 0

/-- The number of an outcome. -/
def ofResult {α : Type} : CallResult α → Int32
  | .ok _ => ok
  | .error code => code.raw

/-- Reads a number as the outcome it stands for; `none` for a number that stands for none. -/
def decode? (raw : Int32) : Option (CallResult Unit) :=
  if raw = ok then some (.ok ())
  else (ErrorCode.all.find? fun code => code.raw = raw).map .error

/-- What a person is told about a number. -/
def describe (raw : Int32) : String :=
  match decode? raw with
  | some (.ok ()) => "OK"
  | some (.error code) => code.message
  | none => s!"unknown status code {raw}"

theorem decode?_raw (code : ErrorCode) : decode? code.raw = some (.error code) := by
  cases code <;> rfl

theorem decode?_ofResult (result : CallResult Unit) : decode? (ofResult result) = some result := by
  cases result with
  | ok _ => rfl
  | error code => exact decode?_raw code

/-- No two codes share a number. -/
theorem raw_inj {a b : ErrorCode} : a.raw = b.raw ↔ a = b := by
  refine ⟨fun h => ?_, congrArg _⟩
  simpa [decode?_raw] using congrArg decode? h

end Status
end PluginHost
