/-
# Performing calls

What each call does to the host.  A call is refused, before anything else, if its caller is
not an accepted plugin; only buffers are freed for anybody, so that they can be given back
after a plugin has been forgotten.  A call about a session is then refused if the handle is
not the one of the session, and if the session is not synchronized.

A call that crashes has no result; that can only be the log's doing.
-/
import PluginHost.Call
import PluginHost.Host
import PluginHost.Text.Hex
import PluginHost.Text.Markup

namespace PluginHost

/-- What has become of a call. -/
structure Outcome where
  /-- The result; `none` when the call crashed. -/
  result : Option (CallResult Reply)
  /-- The host afterwards. -/
  host : Host

namespace Host

/-- The longest payload. -/
def dataLimit : Nat := 1000

/-- The longest name of a payload, in octets. -/
def dataIdLimit : Nat := 100

/-- The first version of the protocol in which payloads are passed on. -/
def dataVersion : Version := ⟨1, 4, 0⟩

/-- The call succeeds. -/
def answer (h : Host) (reply : Reply) : Outcome := ⟨some (.ok reply), h⟩

/-- The call is refused. -/
def refuse (h : Host) (code : ErrorCode) : Outcome := ⟨some (.error code), h⟩

/-- The call gives a buffer with `contents`, lent to `plugin`. -/
def lend (h : Host) (plugin : PluginId) (call : String) (contents : Contents) : Outcome :=
  match h.ledger.lend h.allocator.fresh contents plugin call with
  | (.error code, _) => h.refuse code
  | (.ok buffer, ledger) =>
    { h with ledger := ledger, allocator := h.allocator.advance }.answer (.lent buffer)

/-- A text of which the record holds either the text or its hash. -/
inductive Resolved where
  /-- The record holds the text. -/
  | known (text : String)
  /-- The text was looked up by the hash. -/
  | fetched (text : String)
deriving DecidableEq, Repr

/-- Finds a text.  What the record holds counts, if it is not empty or there is no hash;
otherwise the text must be known by the hash and not be empty. -/
def resolve (blobs : BlobStore) (text : String) (hash : Bytes) : CallResult Resolved :=
  if text ≠ "" ∨ hash = [] then .ok (.known text)
  else
    match blobs.get? hash with
    | none => .error .unsynchronizedBlob
    | some [] => .error .unsynchronizedBlob
    | some content => .ok (.fetched (Utf8.repair content))

/-- The host with another state of the session. -/
def withSession (h : Host) (session : Session) : Host := { h with session := some session }

/-- The host with another directory in the session `s`. -/
def withDirectory (h : Host) (s : Session) (directory : Directory) : Host :=
  h.withSession { s with directory := directory }

/-- The host with another link in the session `s`. -/
def withLink (h : Host) (s : Session) (link : Link) : Host :=
  h.withSession { s with link := link }

/-- Sends a payload from the local user. -/
def sendData (h : Host) (s : Session) (localUser : UserId) (receivers : List UserId)
    (data : Bytes) (dataId : String) : Outcome :=
  if dataLimit < data.length then h.refuse .dataTooBig
  else if dataIdLimit < Utf8.size dataId then h.refuse .dataIdTooLong
  else if receivers.any fun id => (s.directory.user? id).isNone then h.refuse .userNotFound
  else if s.link.serverVersion.before dataVersion then h.refuse .operationUnsupportedByServer
  else (h.withLink s (s.link.send ⟨localUser, receivers, data, dataId⟩)).answer .unit

/-- Performs a call about the session `s`, whose local user is `localUser`, for an accepted
plugin. -/
def performOnSession (h : Host) (plugin : PluginId) (s : Session) (localUser : UserId)
    (call : SessionCall) : Outcome :=
  match call with
  | .getLocalUserId => h.answer (.user localUser)
  | .getUserName user =>
    match s.directory.user? user with
    | none => h.refuse .userNotFound
    | some record => h.lend plugin call.name (.ofText record.name)
  | .getChannelName channel =>
    match s.directory.channel? channel with
    | none => h.refuse .channelNotFound
    | some record => h.lend plugin call.name (.ofText record.name)
  | .getAllUsers => h.lend plugin call.name (.userIds s.directory.userIds)
  | .getAllChannels => h.lend plugin call.name (.channelIds s.directory.channelIds)
  | .getChannelOfUser user =>
    match s.directory.user? user with
    | none => h.refuse .userNotFound
    | some record =>
      match record.channel with
      | none => h.refuse .genericError
      | some channel => h.answer (.channel channel)
  | .getUsersInChannel channel =>
    match s.directory.usersIn channel with
    | none => h.refuse .channelNotFound
    | some users => h.lend plugin call.name (.userIds users)
  | .isUserLocallyMuted user =>
    match s.directory.user? user with
    | none => h.refuse .userNotFound
    | some record => h.answer (.flag record.localMute)
  | .getUserHash user =>
    match s.directory.user? user with
    | none => h.refuse .userNotFound
    | some record => h.lend plugin call.name (.ofText record.hash)
  | .getServerHash => h.lend plugin call.name (.ofText (Hex.encode s.link.digest))
  | .getUserComment user =>
    match s.directory.user? user with
    | none => h.refuse .userNotFound
    | some record =>
      match resolve h.blobs record.comment record.commentHash with
      | .error code => h.refuse code
      | .ok (.known text) => h.lend plugin call.name (.ofText text)
      | .ok (.fetched text) =>
        (h.withDirectory s (s.directory.setUserComment user text).2).lend plugin call.name
          (.ofText text)
  | .getChannelDescription channel =>
    match s.directory.channel? channel with
    | none => h.refuse .channelNotFound
    | some record =>
      match resolve h.blobs record.description record.descriptionHash with
      | .error code => h.refuse code
      | .ok (.known text) => h.lend plugin call.name (.ofText text)
      | .ok (.fetched text) =>
        (h.withDirectory s (s.directory.setChannelDescription channel text).2).lend plugin
          call.name (.ofText text)
  | .requestUserMove user channel password =>
    match s.directory.user? user, s.directory.channel? channel with
    | none, _ => h.refuse .userNotFound
    | some _, none => h.refuse .channelNotFound
    | some record, some _ =>
      if record.channel = some channel then h.answer .unit
      else (h.withLink s (s.link.join ⟨user, channel, password.toList⟩)).answer .unit
  | .requestLocalMute user muted =>
    if user = localUser then h.refuse .invalidMuteTarget
    else
      match s.directory.setLocalMute user muted with
      | (false, _) => h.refuse .userNotFound
      | (true, directory) => (h.withDirectory s directory).answer .unit
  | .requestSetLocalUserComment comment =>
    match s.directory.user? localUser, h.client with
    | none, _ => h.refuse .userNotFound
    | some _, none => h.refuse .internalError
    | some _, some requests =>
      let asked := { h with client := some (requests ++ [ClientRequest.comment localUser comment]) }
      (asked.withDirectory s (s.directory.setUserComment localUser comment).2).answer .unit
  | .findUserByName name =>
    match s.directory.findUser name with
    | none => h.refuse .userNotFound
    | some user => h.answer (.user user)
  | .findChannelByName name =>
    match s.directory.findChannel name with
    | none => h.refuse .channelNotFound
    | some channel => h.answer (.channel channel)
  | .sendData receivers data dataId => h.sendData s localUser receivers data dataId

/-- Asks something of the client, which then has the settings `settings`. -/
def request (h : Host) (asked : ClientRequest) (settings : AudioSettings) : Outcome :=
  match h.client with
  | none => h.refuse .internalError
  | some requests =>
    { h with client := some (requests ++ [asked]), settings := settings }.answer .unit

/-- Reads the value under a key, if it is of the type asked for. -/
def readSetting (h : Host) (plugin : PluginId) (kind : SettingKind) (key : SettingsKey) :
    Outcome :=
  match h.settings.get key with
  | none => h.refuse .unknownSettingsKey
  | some value =>
    match kind, value with
    | .bool, .bool b => h.answer (.flag b)
    | .int, .int n => h.answer (.int n)
    | .double, .double x => h.answer (.double x)
    | .string, .string s => h.lend plugin kind.readerName (.ofText s)
    | _, _ => h.refuse .wrongSettingsType

/-- Performs a call for an accepted plugin. -/
def performAccepted (h : Host) (plugin : PluginId) (call : Call) : Outcome :=
  match call with
  | .freeMemory address =>
    match h.ledger.release address with
    | (.error code, ledger) => { h with ledger := ledger }.refuse code
    | (.ok (), ledger) => { h with ledger := ledger }.answer .unit
  | .verifyCaller => h.answer .unit
  | .getActiveServerConnection =>
    match h.session with
    | none => h.refuse .noActiveConnection
    | some session => h.answer (.connection session.connection)
  | .isConnectionSynchronized connection =>
    match h.connection connection with
    | .error code => h.refuse code
    | .ok session => h.answer (.flag session.isSynchronized)
  | .onSession connection call =>
    match h.synchronized connection with
    | .error code => h.refuse code
    | .ok (session, localUser) => h.performOnSession plugin session localUser call
  | .getLocalUserTransmissionMode => h.answer (.mode h.settings.transmit)
  | .isLocalUserMuted => h.answer (.flag h.settings.mute)
  | .isLocalUserDeafened => h.answer (.flag h.settings.deaf)
  | .requestLocalUserTransmissionMode raw =>
    match TransmissionMode.ofRaw? raw with
    | none => h.refuse .unknownTransmissionMode
    | some mode => h.request (.transmissionMode mode) { h.settings with transmit := mode }
  | .requestMicrophoneActivationOverwrite activate =>
    { h with settings := { h.settings with microphoneOverwrite := activate } }.answer .unit
  | .requestLocalUserMute muted => h.request (.mute muted) { h.settings with mute := muted }
  | .requestLocalUserDeaf deafened =>
    h.request (.deaf deafened) { h.settings with deaf := deafened }
  | .getSetting kind key => h.readSetting plugin kind key
  | .setSetting key value =>
    match h.settings.set key value with
    | .error code => h.refuse code
    | .ok settings => { h with settings := settings }.answer .unit
  | .log message =>
    match h.registry.nameOf plugin with
    | none => h.refuse .invalidPluginId
    | some name =>
      match h.log.write (Markup.logLine name message) with
      | none => ⟨none, h⟩
      | some log => { h with log := log }.answer .unit
  | .playSample path volume =>
    match h.audio with
    | none => h.refuse .audioNotAvailable
    | some output =>
      match output.play path volume with
      | none => h.refuse .invalidSample
      | some output => { h with audio := some output }.answer .unit

/-- Whether a call is performed for anybody. -/
def isOpen : Call → Bool
  | .freeMemory _ => true
  | _ => false

/-- Performs a call. -/
def perform (h : Host) (plugin : PluginId) (call : Call) : Outcome :=
  if isOpen call then h.performAccepted plugin call
  else
    match h.verifyPlugin plugin with
    | .error code => h.refuse code
    | .ok () => h.performAccepted plugin call

end Host
end PluginHost
