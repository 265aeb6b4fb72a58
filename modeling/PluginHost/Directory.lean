/-
# The directory of a session

Who is on the server and which channels there are, as far as this client knows.  A record
belongs to the user or channel whose number it carries; listings ascend by that number.
-/
import Std.Data.TreeMap
import PluginHost.Identity

namespace PluginHost

/-- What is known about a user. -/
structure UserRecord where
  /-- The number of the user in this session. -/
  session : UserId
  /-- The name shown for the user. -/
  name : String
  /-- The hash of the user's certificate, in digits. -/
  hash : String
  /-- The comment, if it is known; empty otherwise. -/
  comment : String
  /-- The hash of the comment, if the server gave only that; empty otherwise. -/
  commentHash : Bytes
  /-- The channel the user is in. -/
  channel : Option ChannelId
  /-- Whether this client keeps the user from being heard. -/
  localMute : Bool
deriving DecidableEq, Repr

/-- What is known about a channel. -/
structure ChannelRecord where
  /-- The number of the channel. -/
  id : ChannelId
  /-- The name of the channel. -/
  name : String
  /-- The description, if it is known; empty otherwise. -/
  description : String
  /-- The hash of the description, if the server gave only that; empty otherwise. -/
  descriptionHash : Bytes
deriving DecidableEq, Repr

/-- The users and channels of a session. -/
structure Directory where
  /-- The users, by number. -/
  users : Std.TreeMap UserId UserRecord
  /-- The channels, by number. -/
  channels : Std.TreeMap ChannelId ChannelRecord

namespace Directory

/-- A directory without entries. -/
def empty : Directory := ⟨∅, ∅⟩

/-- Enters a user, in the place of an earlier record with the same number. -/
def upsertUser (d : Directory) (user : UserRecord) : Directory :=
  { d with users := d.users.insert user.session user }

/-- Enters a channel, in the place of an earlier record with the same number. -/
def upsertChannel (d : Directory) (channel : ChannelRecord) : Directory :=
  { d with channels := d.channels.insert channel.id channel }

/-- A directory with some channels and users.  Of two records with one number the later one
stays. -/
def ofRecords (channels : List ChannelRecord) (users : List UserRecord) : Directory :=
  users.foldl upsertUser (channels.foldl upsertChannel empty)

/-- The record of a user. -/
def user? (d : Directory) (id : UserId) : Option UserRecord := d.users[id]?

/-- The record of a channel. -/
def channel? (d : Directory) (id : ChannelId) : Option ChannelRecord := d.channels[id]?

/-- All users, in ascending order. -/
def userIds (d : Directory) : List UserId := d.users.keys

/-- All channels, in ascending order. -/
def channelIds (d : Directory) : List ChannelId := d.channels.keys

/-- The first user with a name. -/
def findUser (d : Directory) (name : String) : Option UserId :=
  (d.users.values.find? fun user => user.name = name).map UserRecord.session

/-- The first channel with a name. -/
def findChannel (d : Directory) (name : String) : Option ChannelId :=
  (d.channels.values.find? fun channel => channel.name = name).map ChannelRecord.id

/-- The users in a channel, in ascending order; `none` when there is no such channel. -/
def usersIn (d : Directory) (channel : ChannelId) : Option (List UserId) :=
  if d.channels.contains channel then
    some ((d.users.values.filter fun user => user.channel = some channel).map
      UserRecord.session)
  else none

/-- Changes the record of a user; tells whether there is one. -/
def updateUser (d : Directory) (id : UserId) (change : UserRecord → UserRecord) :
    Bool × Directory :=
  match d.user? id with
  | none => (false, d)
  | some user => (true, { d with users := d.users.insert id (change user) })

/-- Changes the record of a channel; tells whether there is one. -/
def updateChannel (d : Directory) (id : ChannelId) (change : ChannelRecord → ChannelRecord) :
    Bool × Directory :=
  match d.channel? id with
  | none => (false, d)
  | some channel => (true, { d with channels := d.channels.insert id (change channel) })

/-- Keeps a user from being heard, or lets the user be heard again. -/
def setLocalMute (d : Directory) (id : UserId) (muted : Bool) : Bool × Directory :=
  d.updateUser id fun user => { user with localMute := muted }

/-- Notes the comment of a user. -/
def setUserComment (d : Directory) (id : UserId) (comment : String) : Bool × Directory :=
  d.updateUser id fun user => { user with comment := comment }

/-- Notes the description of a channel. -/
def setChannelDescription (d : Directory) (id : ChannelId) (description : String) :
    Bool × Directory :=
  d.updateChannel id fun channel => { channel with description := description }

end Directory
end PluginHost
