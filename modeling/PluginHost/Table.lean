/-
# Function tables

Plugins call through tables of functions, where arguments are plain: text is an address of
octets that end with a NUL, a list is an address and a count, and results are written to
addresses that the caller gives.  Any of these addresses may be missing.  An entry reads its
arguments, hands the call over, waits, writes the result if there is one, and returns the
status.

A missing address is an error only of callers that are accepted; others are told that they are
not.  No crash gets through an entry: it ends as an internal error.
-/
import PluginHost.Call.Service

namespace PluginHost

/-- A list as it comes through a table. -/
structure Items (α : Type) where
  /-- What is found at the address, if there is one. -/
  pointer : Option (List α)
  /-- How many elements are to be read. -/
  count : Nat
deriving DecidableEq, Repr

/-- Reads a list.  Of an empty list the address does not matter. -/
def Items.read {α : Type} (items : Items α) : Option (List α) :=
  if items.count = 0 then some [] else items.pointer.map (List.take items.count)

/-- A call as it comes through a table.  Text is what is found at its address. -/
inductive TableCall where
  /-- A call whose arguments are all numbers and flags. -/
  | plain (call : Call)
  /-- Read a value under the key with a number. -/
  | getSetting (kind : SettingKind) (key : Int32)
  /-- Put a flag under the key with a number. -/
  | setSettingBool (key : Int32) (value : Bool)
  /-- Put an integer under the key with a number. -/
  | setSettingInt (key : Int32) (value : Int64)
  /-- Put a double under the key with a number. -/
  | setSettingDouble (key : Int32) (value : Binary64)
  /-- Put a text under the key with a number. -/
  | setSettingString (key : Int32) (value : Option Bytes)
  /-- Move a user; a missing password is none. -/
  | requestUserMove (connection : ConnectionHandle) (user : UserId) (channel : ChannelId)
      (password : Option Bytes)
  /-- Publish a comment of the local user. -/
  | requestSetLocalUserComment (connection : ConnectionHandle) (comment : Option Bytes)
  /-- Who has a name? -/
  | findUserByName (connection : ConnectionHandle) (name : Option Bytes)
  /-- Which channel has a name? -/
  | findChannelByName (connection : ConnectionHandle) (name : Option Bytes)
  /-- Send a payload to users. -/
  | sendData (connection : ConnectionHandle) (users : Items UserId) (data : Items UInt8)
      (dataId : Option Bytes)
  /-- Write a message into the log. -/
  | log (message : Option Bytes)
  /-- Play a sample. -/
  | playSample (path : Option Bytes) (volume : Binary32)
deriving DecidableEq, Repr

/-- The addresses to write results to: whether the caller gives them. -/
structure Targets where
  /-- Where the result goes. -/
  out : Bool
  /-- Where the number of elements goes. -/
  count : Bool
deriving DecidableEq, Repr

/-- What a call writes. -/
inductive Written where
  /-- Nothing. -/
  | nothing
  /-- One value. -/
  | value
  /-- A list, and its number of elements. -/
  | list
deriving DecidableEq, Repr

/-- What a call about a session writes. -/
def SessionCall.written : SessionCall → Written
  | getAllUsers | getAllChannels | getUsersInChannel _ => .list
  | requestUserMove _ _ _ | requestLocalMute _ _ | requestSetLocalUserComment _
  | sendData _ _ _ => .nothing
  | _ => .value

/-- What a call writes. -/
def Call.written : Call → Written
  | onSession _ call => call.written
  | getActiveServerConnection | isConnectionSynchronized _ | getLocalUserTransmissionMode
  | isLocalUserMuted | isLocalUserDeafened | getSetting _ _ => .value
  | _ => .nothing

/-- The volume at which a table has a sample played.  The table of interface 1.0 knows only
the full one. -/
def ApiTable.loudness : ApiTable → Binary32 → Binary32
  | v1_0, _ => Call.fullVolume
  | v1_2, volume => volume

namespace TableCall

/-- The call that arguments stand for, where `text` reads a text and `loudness` changes the
volume; `none` when a text or list is missing. -/
def decode? (text : Bytes → String) (loudness : Binary32 → Binary32) :
    TableCall → Option Call
  | plain call => some call
  | getSetting kind key => some (.getSetting kind (.ofRaw key))
  | setSettingBool key value => some (.setSetting (.ofRaw key) (.bool value))
  | setSettingInt key value => some (.setSetting (.ofRaw key) (.int value))
  | setSettingDouble key value => some (.setSetting (.ofRaw key) (.double value))
  | setSettingString key value =>
    value.map fun octets => .setSetting (.ofRaw key) (.string (text octets))
  | requestUserMove connection user channel password =>
    some (.onSession connection (.requestUserMove user channel (password.map text)))
  | requestSetLocalUserComment connection comment =>
    comment.map fun octets =>
      .onSession connection (.requestSetLocalUserComment (text octets))
  | findUserByName connection name =>
    name.map fun octets => .onSession connection (.findUserByName (text octets))
  | findChannelByName connection name =>
    name.map fun octets => .onSession connection (.findChannelByName (text octets))
  | sendData connection users data dataId =>
    match users.read, data.read, dataId with
    | some receivers, some octets, some id =>
      some (.onSession connection (.sendData receivers octets (text id)))
    | _, _, _ => none
  | log message => message.map fun octets => .log (text octets)
  | playSample path volume =>
    path.map fun octets => .playSample (text octets) (loudness volume)

/-- The call that arguments stand for when they come through a table.  A text ends at its
NUL; octets that are no text are repaired. -/
def read? (table : ApiTable) (call : TableCall) : Option Call :=
  call.decode? Terminated.read table.loudness

/-- The call that arguments stand for when they come with their lengths, so that a text may
hold NULs. -/
def whole? (call : TableCall) : Option Call := call.decode? Utf8.repair id

/-- The call that arguments stand for; `none` when any address is missing that it needs. -/
def complete? (table : ApiTable) (targets : Targets) (call : TableCall) : Option Call :=
  match call.read? table with
  | none => none
  | some read =>
    match read.written with
    | .nothing => some read
    | .value => if targets.out then some read else none
    | .list => if targets.out ∧ targets.count then some read else none

end TableCall

/-- What an entry of a table leaves behind. -/
structure Entered where
  /-- The status. -/
  status : Int32
  /-- What was written, if anything was. -/
  reply : Option Reply
  /-- The service afterwards. -/
  service : Service

namespace ApiTable

/-- The end of an entry: the result is written if the call succeeded. -/
def conclude (result : Option (CallResult Reply)) (service : Service) : Entered :=
  match result with
  | none => ⟨ErrorCode.internalError.raw, none, service⟩
  | some (.error code) => ⟨code.raw, none, service⟩
  | some (.ok reply) => ⟨Status.ok, some reply, service⟩

/-- The end of an entry in which an address is missing: the caller is told so if it is
accepted. -/
def concludeMissing (result : Option (CallResult Reply)) (service : Service) : Entered :=
  match result with
  | some (.ok _) => ⟨ErrorCode.genericError.raw, none, service⟩
  | _ => conclude result service

/-- Calls an entry of a table.  Without a host behind the tables nothing works. -/
def enter (table : ApiTable) (installed : Bool) (service : Service) (thread : Thread)
    (plugin : PluginId) (call : TableCall) (targets : Targets) : Entered :=
  if !installed then ⟨ErrorCode.internalError.raw, none, service⟩
  else
    match call.complete? table targets with
    | none =>
      let (result, service) := service.call thread plugin .verifyCaller
      concludeMissing result service
    | some read =>
      let (result, service) := service.call thread plugin read
      conclude result service

end ApiTable
end PluginHost
