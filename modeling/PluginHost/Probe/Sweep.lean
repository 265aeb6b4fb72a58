/-
# A sweep of reading calls

A plugin asks the host, through the table, for everything that can be read: the session and
whether it is synchronized, the local user, the digest of the server, the transmission mode, and
then all users and channels one by one.  It frees every buffer as soon as it has copied it.
-/
import PluginHost.Table

namespace PluginHost

/-- What was found out about a user. -/
structure UserReport where
  /-- The number of the user. -/
  id : UserId
  /-- The name. -/
  name : CallResult String
  /-- The channel the user is in. -/
  channel : CallResult ChannelId
  /-- The comment. -/
  comment : CallResult String
deriving Repr

/-- What was found out about a channel. -/
structure ChannelReport where
  /-- The number of the channel. -/
  id : ChannelId
  /-- The name. -/
  name : CallResult String
  /-- The users in the channel. -/
  members : CallResult (List UserId)
deriving Repr

/-- What was found out, and how many buffers were still lent in the end. -/
structure Report where
  /-- The plugin that asked. -/
  plugin : PluginId
  /-- The session; a negative number when there was none to be had. -/
  connection : ConnectionHandle
  /-- Whether the session is synchronized. -/
  synchronized : CallResult Bool
  /-- The local user. -/
  localUser : CallResult UserId
  /-- The digest of the server's certificate. -/
  serverHash : CallResult String
  /-- How the microphone is activated. -/
  transmissionMode : CallResult TransmissionMode
  /-- The users. -/
  users : List UserReport
  /-- The channels. -/
  channels : List ChannelReport
  /-- The buffers that were still lent. -/
  leaks : Nat
deriving Repr

/-- A plugin with the table that it calls through. -/
structure Sweep where
  /-- The table. -/
  table : ApiTable
  /-- The plugin. -/
  plugin : PluginId
deriving Repr

namespace Sweep

/-- The handle of no session. -/
def noConnection : ConnectionHandle := -1

/-- What an entry of the table has told its caller. -/
def told (entered : Entered) : CallResult Reply :=
  match entered.reply, Status.decode? entered.status with
  | some reply, some (.ok ()) => .ok reply
  | _, some (.error code) => .error code
  | _, _ => .error .genericError

/-- Calls an entry of the table. -/
def ask (p : Sweep) (s : Service) (call : Call) : CallResult Reply × Service :=
  let entered := p.table.enter true s .plugin p.plugin (.plain call) ⟨true, true⟩
  (told entered, entered.service)

/-- Calls an entry, and takes from the reply what it is asked for. -/
def askFor {α : Type} (p : Sweep) (take : Reply → Option α) (s : Service) (call : Call) :
    CallResult α × Service :=
  match p.ask s call with
  | (.error code, s) => (.error code, s)
  | (.ok reply, s) =>
    match take reply with
    | some value => (.ok value, s)
    | none => (.error .genericError, s)

/-- Calls an entry that lends a buffer, copies what it is asked for, and frees the buffer. -/
def copy {α : Type} (p : Sweep) (take : Contents → Option α) (s : Service) (call : Call) :
    CallResult α × Service :=
  match p.ask s call with
  | (.error code, s) => (.error code, s)
  | (.ok (.lent buffer), s) =>
    let (_, s) := p.ask s (.freeMemory buffer.address)
    match take buffer.contents with
    | some value => (.ok value, s)
    | none => (.error .genericError, s)
  | (.ok _, s) => (.error .genericError, s)

/-- The text in a buffer, as far as it is one. -/
def text? : Contents → Option String
  | .text octets => some (Utf8.repair octets)
  | _ => none

/-- The users in a buffer. -/
def userIds? : Contents → Option (List UserId)
  | .userIds ids => some ids
  | _ => none

/-- The channels in a buffer. -/
def channelIds? : Contents → Option (List ChannelId)
  | .channelIds ids => some ids
  | _ => none

/-- The session in a reply. -/
def connection? : Reply → Option ConnectionHandle
  | .connection handle => some handle
  | _ => none

/-- The flag in a reply. -/
def flag? : Reply → Option Bool
  | .flag value => some value
  | _ => none

/-- The user in a reply. -/
def user? : Reply → Option UserId
  | .user id => some id
  | _ => none

/-- The channel in a reply. -/
def channel? : Reply → Option ChannelId
  | .channel id => some id
  | _ => none

/-- The transmission mode in a reply. -/
def mode? : Reply → Option TransmissionMode
  | .mode mode => some mode
  | _ => none

/-- Asks about users. -/
def users (p : Sweep) (connection : ConnectionHandle) (s : Service) :
    List UserId → List UserReport × Service
  | [] => ([], s)
  | id :: rest =>
    let (name, s) := p.copy text? s (.onSession connection (.getUserName id))
    let (channel, s) := p.askFor channel? s (.onSession connection (.getChannelOfUser id))
    let (comment, s) := p.copy text? s (.onSession connection (.getUserComment id))
    let (more, s) := p.users connection s rest
    (⟨id, name, channel, comment⟩ :: more, s)

/-- Asks about channels. -/
def channels (p : Sweep) (connection : ConnectionHandle) (s : Service) :
    List ChannelId → List ChannelReport × Service
  | [] => ([], s)
  | id :: rest =>
    let (name, s) := p.copy text? s (.onSession connection (.getChannelName id))
    let (members, s) := p.copy userIds? s (.onSession connection (.getUsersInChannel id))
    let (more, s) := p.channels connection s rest
    (⟨id, name, members⟩ :: more, s)

/-- The elements of a list, of which there are none if it could not be had. -/
def orNone {α : Type} : CallResult (List α) → List α
  | .ok items => items
  | .error _ => []

/-- Asks for everything, and stops the host afterwards. -/
def run (p : Sweep) (s : Service) : Report :=
  let (connected, s) := p.askFor connection? s .getActiveServerConnection
  let connection :=
    match connected with
    | .ok handle => handle
    | .error _ => noConnection
  let (synchronized, s) :=
    match connected with
    | .ok handle => p.askFor flag? s (.isConnectionSynchronized handle)
    | .error code => (.error code, s)
  let (localUser, s) := p.askFor user? s (.onSession connection .getLocalUserId)
  let (serverHash, s) := p.copy text? s (.onSession connection .getServerHash)
  let (mode, s) := p.askFor mode? s .getLocalUserTransmissionMode
  let (userIds, s) := p.copy userIds? s (.onSession connection .getAllUsers)
  let (users, s) := p.users connection s (orNone userIds)
  let (channelIds, s) := p.copy channelIds? s (.onSession connection .getAllChannels)
  let (channels, s) := p.channels connection s (orNone channelIds)
  { plugin := p.plugin
    connection := connection
    synchronized := synchronized
    localUser := localUser
    serverHash := serverHash
    transmissionMode := mode
    users := users
    channels := channels
    leaks := (s.stop.1.getD []).length }

end Sweep
end PluginHost
