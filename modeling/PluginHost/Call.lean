/-
# Plugin calls

What plugins can ask of the host, and what they get.  Most calls are about the session; they
name it by its handle and need it to be synchronized.
-/
import PluginHost.Ledger.Buffer
import PluginHost.Settings

namespace PluginHost

/-- Calls about a synchronized session. -/
inductive SessionCall where
  /-- Who is the local user? -/
  | getLocalUserId
  /-- What is the name of a user? -/
  | getUserName (user : UserId)
  /-- What is the name of a channel? -/
  | getChannelName (channel : ChannelId)
  /-- Who is on the server? -/
  | getAllUsers
  /-- Which channels are there? -/
  | getAllChannels
  /-- In which channel is a user? -/
  | getChannelOfUser (user : UserId)
  /-- Who is in a channel? -/
  | getUsersInChannel (channel : ChannelId)
  /-- Is a user kept from being heard? -/
  | isUserLocallyMuted (user : UserId)
  /-- What is the hash of a user's certificate? -/
  | getUserHash (user : UserId)
  /-- What is the digest of the server's certificate? -/
  | getServerHash
  /-- What is the comment of a user? -/
  | getUserComment (user : UserId)
  /-- What is the description of a channel? -/
  | getChannelDescription (channel : ChannelId)
  /-- Move a user into a channel. -/
  | requestUserMove (user : UserId) (channel : ChannelId) (password : Option String)
  /-- Keep a user from being heard, or not. -/
  | requestLocalMute (user : UserId) (muted : Bool)
  /-- Publish a comment of the local user. -/
  | requestSetLocalUserComment (comment : String)
  /-- Who has a name? -/
  | findUserByName (name : String)
  /-- Which channel has a name? -/
  | findChannelByName (name : String)
  /-- Send a payload to users. -/
  | sendData (receivers : List UserId) (data : Bytes) (dataId : String)
deriving DecidableEq, Repr

/-- The types of values under a key. -/
inductive SettingKind where
  /-- Flags. -/
  | bool
  /-- Integers. -/
  | int
  /-- Doubles. -/
  | double
  /-- Texts. -/
  | string
deriving DecidableEq, Repr

/-- The calls of plugins. -/
inductive Call where
  /-- Free a lent buffer. -/
  | freeMemory (address : Address)
  /-- Is the caller accepted? -/
  | verifyCaller
  /-- Which session is there? -/
  | getActiveServerConnection
  /-- Is a session synchronized? -/
  | isConnectionSynchronized (connection : ConnectionHandle)
  /-- A call about a synchronized session. -/
  | onSession (connection : ConnectionHandle) (call : SessionCall)
  /-- How is the microphone activated? -/
  | getLocalUserTransmissionMode
  /-- Is the local user muted? -/
  | isLocalUserMuted
  /-- Is the local user deafened? -/
  | isLocalUserDeafened
  /-- Activate the microphone in another way; the way is given by its number. -/
  | requestLocalUserTransmissionMode (mode : Int32)
  /-- Hold the microphone open, or not. -/
  | requestMicrophoneActivationOverwrite (activate : Bool)
  /-- Mute the local user, or not. -/
  | requestLocalUserMute (muted : Bool)
  /-- Deafen the local user, or not. -/
  | requestLocalUserDeaf (deafened : Bool)
  /-- What is the value, of some type, under a key? -/
  | getSetting (kind : SettingKind) (key : SettingsKey)
  /-- Put a value under a key. -/
  | setSetting (key : SettingsKey) (value : SettingValue)
  /-- Write a message into the log. -/
  | log (message : String)
  /-- Play a sample. -/
  | playSample (path : String) (volume : Binary32)
deriving DecidableEq, Repr

/-- What a successful call gives. -/
inductive Reply where
  /-- Nothing. -/
  | unit
  /-- A flag. -/
  | flag (value : Bool)
  /-- The handle of a session. -/
  | connection (handle : ConnectionHandle)
  /-- A user. -/
  | user (id : UserId)
  /-- A channel. -/
  | channel (id : ChannelId)
  /-- A transmission mode. -/
  | mode (mode : TransmissionMode)
  /-- An integer. -/
  | int (value : Int64)
  /-- A double. -/
  | double (value : Binary64)
  /-- A buffer, which is the caller's until the caller frees it. -/
  | lent (buffer : Buffer)
deriving DecidableEq, Repr

/-- The name under which a call about a session lends buffers. -/
def SessionCall.name : SessionCall → String
  | getLocalUserId => "get_local_user_id"
  | getUserName _ => "get_user_name"
  | getChannelName _ => "get_channel_name"
  | getAllUsers => "get_all_users"
  | getAllChannels => "get_all_channels"
  | getChannelOfUser _ => "get_channel_of_user"
  | getUsersInChannel _ => "get_users_in_channel"
  | isUserLocallyMuted _ => "is_user_locally_muted"
  | getUserHash _ => "get_user_hash"
  | getServerHash => "get_server_hash"
  | getUserComment _ => "get_user_comment"
  | getChannelDescription _ => "get_channel_description"
  | requestUserMove _ _ _ => "request_user_move"
  | requestLocalMute _ _ => "request_local_mute"
  | requestSetLocalUserComment _ => "request_set_local_user_comment"
  | findUserByName _ => "find_user_by_name"
  | findChannelByName _ => "find_channel_by_name"
  | sendData _ _ _ => "send_data"

/-- The name of the call that reads a value of some type. -/
def SettingKind.readerName : SettingKind → String
  | bool => "get_setting_bool"
  | int => "get_setting_int"
  | double => "get_setting_double"
  | string => "get_setting_string"

/-- The volume at which samples are played if no volume is given. -/
def Call.fullVolume : Binary32 := .ofDecimal false 1 0

end PluginHost
