/-
# Server sessions

A session is one connection to a server.  It begins without knowing which of the users is the
local one; the server tells when it has sent everything, and from then on the session is
synchronized.  Through its link the session asks the server for things; what has been asked is
kept in order.
-/
import PluginHost.Directory
import PluginHost.Version

namespace PluginHost

/-- A payload that a plugin sends to other users. -/
structure Transmission where
  /-- The user who sends it. -/
  sender : UserId
  /-- The users it goes to. -/
  receivers : List UserId
  /-- The payload. -/
  data : Bytes
  /-- What kind of payload it is. -/
  dataId : String
deriving DecidableEq, Repr

/-- A request to move a user into a channel. -/
structure Join where
  /-- The user to be moved. -/
  user : UserId
  /-- The channel to move to. -/
  channel : ChannelId
  /-- The passwords for the channel. -/
  passwords : List String
deriving DecidableEq, Repr

/-- The line to a server. -/
structure Link where
  /-- The version of the protocol that the server announced. -/
  serverVersion : Version
  /-- The digest of the server's certificate. -/
  digest : Bytes
  /-- The moves that were asked for, the first one in front. -/
  joins : List Join
  /-- The payloads that were sent, the first one in front. -/
  sent : List Transmission
deriving DecidableEq, Repr

namespace Link

/-- A line on which nothing has been asked for. -/
def new (serverVersion : Version) (digest : Bytes) : Link := ⟨serverVersion, digest, [], []⟩

/-- Asks for a move. -/
def join (l : Link) (request : Join) : Link := { l with joins := l.joins ++ [request] }

/-- Sends a payload. -/
def send (l : Link) (transmission : Transmission) : Link :=
  { l with sent := l.sent ++ [transmission] }

end Link

/-- A connection to a server. -/
structure Session where
  /-- The handle of the connection. -/
  connection : ConnectionHandle
  /-- The line to the server. -/
  link : Link
  /-- Who and what is on the server. -/
  directory : Directory
  /-- The local user, once the session is synchronized. -/
  localUser : Option UserId

namespace Session

/-- A session that has just begun. -/
def begin (connection : ConnectionHandle) (link : Link) (directory : Directory) : Session :=
  ⟨connection, link, directory, none⟩

/-- Whether the local user is known. -/
def isSynchronized (s : Session) : Bool := s.localUser.isSome

end Session
end PluginHost
