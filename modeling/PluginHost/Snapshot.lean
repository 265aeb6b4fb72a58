/-
# Snapshots of sessions

A snapshot describes a server as it was at some moment, so that a session can be had without
one: the version it announced, the digest of its certificate, its channels and users, and texts
by their hash.  The digest and the hashes are written in digits; they are read only when they
are needed, and may turn out to be malformed then.
-/
import PluginHost.FileTree
import PluginHost.Host
import PluginHost.Text.Hex
import PluginHost.Toml.Shape

namespace PluginHost

/-- A text and its hash. -/
structure BlobEntry where
  /-- The hash, in digits. -/
  hash : String
  /-- The text. -/
  content : String
deriving DecidableEq, Repr

/-- A snapshot of a session. -/
structure Snapshot where
  /-- The version of the protocol that the server announced. -/
  serverVersion : Version
  /-- The digest of the server's certificate, in digits. -/
  certificateDigest : String
  /-- The local user, if the session was synchronized. -/
  localUser : Option UserId
  /-- The channels. -/
  channels : List ChannelRecord
  /-- The users. -/
  users : List UserRecord
  /-- Texts by their hash. -/
  blobs : List BlobEntry
deriving DecidableEq, Repr

/-- What can be wrong with a snapshot. -/
inductive SnapshotError where
  /-- The file cannot be read. -/
  | unreadable (path : String) (reason : FileError)
  /-- The text of the file is not that of a snapshot. -/
  | malformed (path : String)
  /-- The digest is not written in pairs of digits. -/
  | digest (reason : Hex.Error)
  /-- A hash is not written in pairs of digits. -/
  | blobHash (hash : String) (reason : Hex.Error)
deriving DecidableEq, Repr

/-- What a person is told: what could not be done, and why. -/
def SnapshotError.messages : SnapshotError → List String
  | unreadable path reason => [s!"failed to read session file {path}", reason.message]
  | malformed path => [s!"invalid session file {path}", "TOML parse error"]
  | digest reason => ["certificate_digest is not valid hex", reason.message]
  | blobHash hash reason => [s!"blob hash {Quoted.text hash} is not valid hex", reason.message]

/-! ## Reading -/

/-- The shape of a version. -/
def Version.ofItem? (item : Toml.Item) : Option Version := do
  let record ← Toml.Record.ofItem? ["major", "minor", "patch"] item
  return {
    major := ← record.field 0 "major" Toml.Shape.integer none
    minor := ← record.field 1 "minor" Toml.Shape.integer none
    patch := ← record.field 2 "patch" Toml.Shape.integer none }

/-- The shape of a channel. -/
def ChannelRecord.ofItem? (item : Toml.Item) : Option ChannelRecord := do
  let record ← Toml.Record.ofItem? ["id", "name", "description", "description_hash"] item
  return {
    id := ← record.field 0 "id" Toml.Shape.integer none
    name := ← record.field 1 "name" Toml.Shape.text none
    description := ← record.field 2 "description" Toml.Shape.text (some "")
    descriptionHash := ← record.field 3 "description_hash" (Toml.Shape.list Toml.Shape.octet)
      (some []) }

/-- The shape of a user. -/
def UserRecord.ofItem? (item : Toml.Item) : Option UserRecord := do
  let record ← Toml.Record.ofItem?
    ["session", "name", "hash", "comment", "comment_hash", "channel", "local_mute"] item
  return {
    session := ← record.field 0 "session" Toml.Shape.word none
    name := ← record.field 1 "name" Toml.Shape.text none
    hash := ← record.field 2 "hash" Toml.Shape.text (some "")
    comment := ← record.field 3 "comment" Toml.Shape.text (some "")
    commentHash := ← record.field 4 "comment_hash" (Toml.Shape.list Toml.Shape.octet) (some [])
    channel := ← record.field 5 "channel" (Toml.Shape.present Toml.Shape.integer) (some none)
    localMute := ← record.field 6 "local_mute" Toml.Shape.flag (some false) }

/-- The shape of a text with its hash. -/
def BlobEntry.ofItem? (item : Toml.Item) : Option BlobEntry := do
  let record ← Toml.Record.ofItem? ["hash", "content"] item
  return {
    hash := ← record.field 0 "hash" Toml.Shape.text none
    content := ← record.field 1 "content" Toml.Shape.text none }

namespace Snapshot

/-- The shape of a snapshot. -/
def ofItem? (item : Toml.Item) : Option Snapshot := do
  let record ← Toml.Record.ofItem?
    ["server_version", "certificate_digest", "local_user", "channels", "users", "blobs"] item
  return {
    serverVersion := ← record.field 0 "server_version" Version.ofItem? none
    certificateDigest := ← record.field 1 "certificate_digest" Toml.Shape.text (some "")
    localUser := ← record.field 2 "local_user" (Toml.Shape.present Toml.Shape.word) (some none)
    channels := ← record.field 3 "channels" (Toml.Shape.list ChannelRecord.ofItem?) (some [])
    users := ← record.field 4 "users" (Toml.Shape.list UserRecord.ofItem?) (some [])
    blobs := ← record.field 5 "blobs" (Toml.Shape.list BlobEntry.ofItem?) (some []) }

/-- The snapshot that a text describes. -/
def parse (text : String) : Option Snapshot := do
  let entries ← Toml.Document.read text
  ofItem? (.table .headed entries)

/-- The snapshot in a file. -/
def load (files : FileView) (path : String) : Except SnapshotError Snapshot :=
  match files.readText path with
  | .error reason => .error (.unreadable path reason)
  | .ok text =>
    match parse text with
    | none => .error (.malformed path)
    | some snapshot => .ok snapshot

/-! ## What a snapshot gives -/

/-- The directory of the session. -/
def directory (s : Snapshot) : Directory := .ofRecords s.channels s.users

/-- A line to the server. -/
def link (s : Snapshot) : Except SnapshotError Link :=
  match Hex.decode s.certificateDigest with
  | .error reason => .error (.digest reason)
  | .ok digest => .ok (.new s.serverVersion digest)

/-- Stores texts, one after the other. -/
def storeBlobs (store : BlobStore) : List BlobEntry → Except SnapshotError BlobStore
  | [] => .ok store
  | entry :: rest =>
    match Hex.decode entry.hash with
    | .error reason => .error (.blobHash entry.hash reason)
    | .ok hash => storeBlobs (store.insert hash (Utf8.encode entry.content)) rest

/-- The texts by their hash. -/
def blobStore (s : Snapshot) : Except SnapshotError BlobStore := storeBlobs .empty s.blobs

end Snapshot
end PluginHost
