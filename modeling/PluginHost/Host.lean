/-
# The host

Everything that a plugin call can read or change.  Next to the registry, the settings and the
session these are the parts of the client that the host makes use of: a store of texts by
hash, a log, the controls of the client and the audio output.  Each of them keeps what was
asked of it, in order.
-/
import PluginHost.FileTree
import PluginHost.Ledger
import PluginHost.Registry
import PluginHost.Session
import PluginHost.Settings

namespace PluginHost

/-- Texts by their hash.  Of two texts under one hash the later one counts. -/
structure BlobStore where
  /-- The texts, the latest one in front. -/
  blobs : List (Bytes × Bytes)
deriving DecidableEq, Repr

namespace BlobStore

/-- A store without texts. -/
def empty : BlobStore := ⟨[]⟩

/-- Stores a text. -/
def insert (store : BlobStore) (hash content : Bytes) : BlobStore :=
  ⟨(hash, content) :: store.blobs⟩

/-- The text with a hash. -/
def get? (store : BlobStore) (hash : Bytes) : Option Bytes := store.blobs.lookup hash

end BlobStore

/-- Where lines of plugins go. -/
inductive PluginLog where
  /-- To the diagnostics, where nothing is kept. -/
  | diagnostics
  /-- To a list, the first line in front.  A line that holds the text `fatal` makes the log
  crash. -/
  | kept (lines : List String) (fatal : Option String)
deriving DecidableEq, Repr

namespace PluginLog

/-- Whether `piece` stands somewhere in the characters. -/
def holds (piece : List Char) : List Char → Bool
  | [] => piece.isEmpty
  | c :: cs => piece.isPrefixOf (c :: cs) || holds piece cs

/-- Writes a line; `none` when the log crashes on it. -/
def write (log : PluginLog) (line : String) : Option PluginLog :=
  match log with
  | diagnostics => some diagnostics
  | kept lines none => some (kept (lines ++ [line]) none)
  | kept lines (some fatal) =>
    if holds fatal.toList line.toList then none
    else some (kept (lines ++ [line]) (some fatal))

/-- The lines that were kept. -/
def lines : PluginLog → List String
  | diagnostics => []
  | kept lines _ => lines

end PluginLog

/-- Something asked of the client. -/
inductive ClientRequest where
  /-- To activate the microphone in another way. -/
  | transmissionMode (mode : TransmissionMode)
  /-- To mute the local user, or not. -/
  | mute (muted : Bool)
  /-- To deafen the local user, or not. -/
  | deaf (deafened : Bool)
  /-- To publish a comment of the local user. -/
  | comment (user : UserId) (text : String)
deriving DecidableEq, Repr

/-- The audio output: it plays files. -/
structure AudioOutput where
  /-- The files there are. -/
  files : FileView
  /-- What was played, and how loud, the first sample in front. -/
  played : List (String × Binary32)

/-- Plays a sample; tells whether there is such a file. -/
def AudioOutput.play (output : AudioOutput) (path : String) (volume : Binary32) :
    Option AudioOutput :=
  if output.files.isFile path then
    some { output with played := output.played ++ [(path, volume)] }
  else none

/-- The state of the host. -/
structure Host where
  /-- The plugins. -/
  registry : Registry
  /-- The audio settings. -/
  settings : AudioSettings
  /-- The texts known by hash. -/
  blobs : BlobStore
  /-- Where lines of plugins go. -/
  log : PluginLog
  /-- What was asked of the client, if it has controls. -/
  client : Option (List ClientRequest)
  /-- The audio output, if there is one. -/
  audio : Option AudioOutput
  /-- The session, if there is one. -/
  session : Option Session
  /-- The handle of the next session. -/
  nextConnection : ConnectionHandle
  /-- What is lent to plugins. -/
  ledger : Ledger
  /-- Where the next buffer goes. -/
  allocator : Allocator

namespace Host

/-- A host without a session and without the other parts of a client. -/
def new (registry : Registry) (settings : AudioSettings) : Host where
  registry := registry
  settings := settings
  blobs := .empty
  log := .diagnostics
  client := none
  audio := none
  session := none
  nextConnection := 0
  ledger := .empty
  allocator := .new

/-- The handle behind a handle.  Handles are never negative: behind the last one the first
one comes again. -/
def followingConnection (connection : ConnectionHandle) : ConnectionHandle :=
  max (connection + 1) 0

/-- Begins a session, in the place of an earlier one, and returns its handle. -/
def connect (h : Host) (link : Link) (directory : Directory) : ConnectionHandle × Host :=
  (h.nextConnection,
    { h with
      session := some (Session.begin h.nextConnection link directory)
      nextConnection := followingConnection h.nextConnection })

/-- Notes who the local user of the session is; tells whether there is a session. -/
def synchronize (h : Host) (user : UserId) : Bool × Host :=
  match h.session with
  | none => (false, h)
  | some session => (true, { h with session := some { session with localUser := some user } })

/-- Begins a session of which the local user may be known already. -/
def join (h : Host) (link : Link) (directory : Directory) (localUser : Option UserId) : Host :=
  let (_, connected) := h.connect link directory
  match localUser with
  | none => connected
  | some user => (connected.synchronize user).2

/-- Changes the directory of the session, if there is one. -/
def mapDirectory (h : Host) (change : Directory → Directory) : Host :=
  { h with session := h.session.map fun s => { s with directory := change s.directory } }

/-- Accepts the calls of a plugin, or not. -/
def verifyPlugin (h : Host) (plugin : PluginId) : CallResult Unit :=
  if h.registry.contains plugin then .ok () else .error .invalidPluginId

/-- The session with a handle. -/
def connection (h : Host) (handle : ConnectionHandle) : CallResult Session :=
  match h.session with
  | none => .error .connectionNotFound
  | some session =>
    if session.connection = handle then .ok session else .error .connectionNotFound

/-- The session with a handle, and its local user. -/
def synchronized (h : Host) (handle : ConnectionHandle) : CallResult (Session × UserId) :=
  match h.connection handle with
  | .error code => .error code
  | .ok session =>
    match session.localUser with
    | none => .error .connectionUnsynchronized
    | some user => .ok (session, user)

end Host
end PluginHost
