/-
# What a call does to the rest of the host

`Host.Effect` and `Host.Entry` say what a call can do to the ledger.  This file says what it can do
to everything else: the users and channels, the settings, and what leaves the host, that is the
moves and payloads for the server, the requests to the client, the samples and the lines of the
log.  Most calls do nothing of that kind, and the others do one thing (`Host.Deed`, shown for all
calls in `perform_deed`).

What leaves the host by a call that succeeds is its parcel (`Host.parcel?`).  It is read off the
call, the session and the registry alone, and has no part in what the call does.
-/
import PluginHost.Proofs.Call.Inquiry

namespace PluginHost

/-- Something that leaves the host. -/
inductive Parcel where
  /-- A move, asked of the server. -/
  | join (request : Join)
  /-- A payload. -/
  | transmission (transmission : Transmission)
  /-- Something asked of the client. -/
  | request (asked : ClientRequest)
  /-- A sample, with its volume. -/
  | sample (path : String) (volume : Binary32)
  /-- A line of the log. -/
  | line (text : String)
deriving DecidableEq, Repr

/-- What leaves the host when a call about the session succeeds.  A user who is in the channel
already is not moved. -/
def Session.parcel? (s : Session) (localUser : UserId) : SessionCall → Option Parcel
  | .requestUserMove user channel password =>
    if (s.directory.user? user).bind UserRecord.channel = some channel then none
    else some (.join ⟨user, channel, password.toList⟩)
  | .requestSetLocalUserComment comment => some (.request (.comment localUser comment))
  | .sendData receivers data dataId => some (.transmission ⟨localUser, receivers, data, dataId⟩)
  | _ => none

/-- The settings once the client does what it is asked to. -/
def ClientRequest.applied (settings : AudioSettings) : ClientRequest → AudioSettings
  | transmissionMode mode => { settings with transmit := mode }
  | mute muted => { settings with mute := muted }
  | deaf deafened => { settings with deaf := deafened }
  | comment _ _ => settings

/-- What of the settings belongs to the client: how the microphone is activated, and whether the
local user is muted or deafened. -/
def AudioSettings.controls (settings : AudioSettings) : TransmissionMode × Bool × Bool :=
  (settings.transmit, settings.mute, settings.deaf)

namespace Host

/-- What leaves the host when a call of `plugin` succeeds. -/
def parcel? (h : Host) (plugin : PluginId) : Call → Option Parcel
  | .onSession _ call =>
    h.session.bind fun s => s.localUser.bind fun localUser => s.parcel? localUser call
  | .requestLocalUserTransmissionMode raw =>
    (TransmissionMode.ofRaw? raw).map fun mode => .request (.transmissionMode mode)
  | .requestLocalUserMute muted => some (.request (.mute muted))
  | .requestLocalUserDeaf deafened => some (.request (.deaf deafened))
  | .log message =>
    (h.registry.nameOf plugin).map fun name => .line (Markup.logLine name message)
  | .playSample path volume => some (.sample path volume)
  | _ => none

/-- Nothing is to leave the host by a call: it asks nothing of anybody outside, or that a user be
moved who is there already. -/
def Silent (h : Host) : Call → Prop
  | .onSession _ (.requestUserMove user channel _) => ∃ s, h.session = some s ∧
    (s.directory.user? user).bind UserRecord.channel = some channel
  | .onSession _ (.requestSetLocalUserComment _) | .onSession _ (.sendData _ _ _) => False
  | .requestLocalUserTransmissionMode _ | .requestLocalUserMute _ | .requestLocalUserDeaf _ => False
  | .log _ | .playSample _ _ => False
  | _ => True

/-- The host without what is lent. -/
def unlent (h : Host) : Host := { h with ledger := .empty, allocator := .new }

/-- What a call can do to the host, apart from what is lent. -/
inductive Deed (h : Host) (plugin : PluginId) : Call → Outcome → Prop
  /-- Nothing.  If the call succeeds nevertheless, nothing is to leave the host by it. -/
  | spared {call : Call} {outcome : Outcome} (hhost : outcome.host.unlent = h.unlent)
      (hsilent : ∀ reply, outcome.result = some (.ok reply) → h.Silent call) :
      Deed h plugin call outcome
  /-- A text that was fetched is noted, whether or not it can be lent then. -/
  | annotated {connection : ConnectionHandle} {s : Session} {localUser : UserId}
      {subject : Directory.Subject} {entry : Directory.Entry} {text : String} {outcome : Outcome}
      (hsynchronized : h.synchronized connection = .ok (s, localUser))
      (hentry : s.directory.record? subject = some entry)
      (hfetched : h.blobs.fetched? entry.text entry.hash = some text)
      (hhost : outcome.host.unlent =
        (h.withDirectory s (s.directory.annotate text subject)).unlent) :
      Deed h plugin (.onSession connection subject.call) outcome
  /-- The server is asked to move a user. -/
  | joined {connection : ConnectionHandle} {s : Session} {localUser user : UserId}
      {channel : ChannelId} {password : Option String} {record : UserRecord}
      (hsynchronized : h.synchronized connection = .ok (s, localUser))
      (hrecord : s.directory.user? user = some record) (haway : record.channel ≠ some channel) :
      Deed h plugin (.onSession connection (.requestUserMove user channel password))
        ((h.withLink s (s.link.join ⟨user, channel, password.toList⟩)).answer .unit)
  /-- A payload is sent. -/
  | sent {connection : ConnectionHandle} {s : Session} {localUser : UserId}
      {receivers : List UserId} {data : Bytes} {dataId : String}
      (hsynchronized : h.synchronized connection = .ok (s, localUser)) :
      Deed h plugin (.onSession connection (.sendData receivers data dataId))
        ((h.withLink s (s.link.send ⟨localUser, receivers, data, dataId⟩)).answer .unit)
  /-- A user other than the local one is kept from being heard, or not any more. -/
  | muted {connection : ConnectionHandle} {s : Session} {localUser user : UserId} {muted : Bool}
      {record : UserRecord} (hsynchronized : h.synchronized connection = .ok (s, localUser))
      (hother : user ≠ localUser) (hrecord : s.directory.user? user = some record) :
      Deed h plugin (.onSession connection (.requestLocalMute user muted))
        ((h.withDirectory s (s.directory.setLocalMute user muted).2).answer .unit)
  /-- The client is asked to publish a comment of the local user, which is noted too. -/
  | published {connection : ConnectionHandle} {s : Session} {localUser : UserId}
      {comment : String} {record : UserRecord} {requests : List ClientRequest}
      (hsynchronized : h.synchronized connection = .ok (s, localUser))
      (hrecord : s.directory.user? localUser = some record) (hclient : h.client = some requests) :
      Deed h plugin (.onSession connection (.requestSetLocalUserComment comment))
        (({ h with
          client := some (requests ++ [ClientRequest.comment localUser comment]) }.withDirectory s
            (s.directory.setUserComment localUser comment).2).answer .unit)
  /-- The client is asked for something else, which the settings show from then on. -/
  | asked {call : Call} {asked : ClientRequest} {requests : List ClientRequest}
      (hclient : h.client = some requests)
      (hparcel : h.parcel? plugin call = some (.request asked)) :
      Deed h plugin call
        ({ h with
          client := some (requests ++ [asked])
          settings := asked.applied h.settings }.answer .unit)
  /-- A setting is changed that does not belong to the client. -/
  | tuned {call : Call} {settings : AudioSettings}
      (hcontrols : settings.controls = h.settings.controls) (hsilent : h.Silent call) :
      Deed h plugin call ({ h with settings := settings }.answer .unit)
  /-- A line is written into the log. -/
  | logged {message name : String} {log : PluginLog}
      (hname : h.registry.nameOf plugin = some name)
      (hwrite : h.log.write (Markup.logLine name message) = some log) :
      Deed h plugin (.log message) ({ h with log := log }.answer .unit)
  /-- A sample is played. -/
  | played {path : String} {volume : Binary32} {output output' : AudioOutput}
      (haudio : h.audio = some output) (hplay : output.play path volume = some output') :
      Deed h plugin (.playSample path volume) ({ h with audio := some output' }.answer .unit)

variable {h : Host} {plugin : PluginId}

lemma localUser_of_synchronized {connection : ConnectionHandle} {s : Session} {localUser : UserId}
    (hsynchronized : h.synchronized connection = .ok (s, localUser)) :
    s.localUser = some localUser := by
  unfold synchronized at hsynchronized
  split at hsynchronized
  · cases hsynchronized
  split at hsynchronized
  · cases hsynchronized
  next hlocal =>
  cases hsynchronized
  exact hlocal

/-- Nobody is asked anything when a comment or a description is read. -/
lemma silent_call (connection : ConnectionHandle) (subject : Directory.Subject) :
    h.Silent (.onSession connection subject.call) := by
  cases subject <;> trivial

/-- Hosts that differ in nothing but what is lent have the rest in common. -/
lemma part_eq {α : Type} (part : Host → α) (hpart : ∀ h, part h.unlent = part h) {h' : Host}
    (hhost : h'.unlent = h.unlent) : part h' = part h := by
  rw [← hpart h', hhost, hpart]

/-- What is lent makes no difference here. -/
lemma unlent_lend (host : Host) (name : String) (contents : Contents) :
    (host.lend plugin name contents).host.unlent = host.unlent := by
  unfold lend
  split <;> rfl

namespace Deed

variable {call : Call}

lemma refuse (code : ErrorCode) : Deed h plugin call (h.refuse code) := .spared rfl nofun

/-- A call that crashes has no reply. -/
lemma crash : Deed h plugin call ⟨none, h⟩ := .spared rfl nofun

lemma answer (hsilent : h.Silent call) (reply : Reply) : Deed h plugin call (h.answer reply) :=
  .spared rfl fun _ _ => hsilent

lemma lend (hsilent : h.Silent call) (name : String) (contents : Contents) :
    Deed h plugin call (h.lend plugin name contents) :=
  .spared (unlent_lend h name contents) fun _ _ => hsilent

end Deed

/-! ## Calls about a session -/

section OnSession

variable {connection : ConnectionHandle} {s : Session} {localUser : UserId}
  (hsynchronized : h.synchronized connection = .ok (s, localUser))

include hsynchronized

lemma sendData_deed (receivers : List UserId) (data : Bytes) (dataId : String) :
    Deed h plugin (.onSession connection (.sendData receivers data dataId))
      (h.sendData s localUser receivers data dataId) := by
  unfold sendData
  split_ifs
  · exact .refuse _
  · exact .refuse _
  · exact .refuse _
  · exact .refuse _
  · exact .sent hsynchronized

/-- The call for a comment or a description. -/
lemma performOnSession_call_deed (subject : Directory.Subject) :
    Deed h plugin (.onSession connection subject.call)
      (h.performOnSession plugin s localUser subject.call) := by
  rw [Inquiry.performOnSession_call]
  cases hentry : s.directory.record? subject with
  | none => exact .refuse _
  | some entry =>
    dsimp only
    rw [resolve_eq]
    have hfetched : h.blobs.fetched? entry.text entry.hash =
        if entry.text ≠ "" ∨ entry.hash = [] then none else h.blobs.text? entry.hash := rfl
    split_ifs at hfetched ⊢ with hknown
    · exact .lend (silent_call _ _) _ _
    · cases htext : h.blobs.text? entry.hash with
      | none => exact .refuse _
      | some text =>
        -- the text is noted before it is lent
        exact .annotated hsynchronized hentry (hfetched.trans htext) (unlent_lend _ _ _)

lemma performOnSession_deed (call : SessionCall) :
    Deed h plugin (.onSession connection call) (h.performOnSession plugin s localUser call) := by
  cases call with
  | getLocalUserId => exact .answer (by trivial) _
  | getUserName user =>
    simp only [performOnSession]
    split
    · exact .refuse _
    · exact .lend (by trivial) _ _
  | getChannelName channel =>
    simp only [performOnSession]
    split
    · exact .refuse _
    · exact .lend (by trivial) _ _
  | getAllUsers => exact .lend (by trivial) _ _
  | getAllChannels => exact .lend (by trivial) _ _
  | getChannelOfUser user =>
    simp only [performOnSession]
    split
    · exact .refuse _
    split
    · exact .refuse _
    · exact .answer (by trivial) _
  | getUsersInChannel channel =>
    simp only [performOnSession]
    split
    · exact .refuse _
    · exact .lend (by trivial) _ _
  | isUserLocallyMuted user =>
    simp only [performOnSession]
    split
    · exact .refuse _
    · exact .answer (by trivial) _
  | getUserHash user =>
    simp only [performOnSession]
    split
    · exact .refuse _
    · exact .lend (by trivial) _ _
  | getServerHash => exact .lend (by trivial) _ _
  | getUserComment user => exact performOnSession_call_deed hsynchronized (.user user)
  | getChannelDescription channel =>
    exact performOnSession_call_deed hsynchronized (.channel channel)
  | requestUserMove user channel password =>
    simp only [performOnSession]
    split
    · exact .refuse _
    · exact .refuse _
    next record hrecord hchannel =>
    split_ifs with hthere
    · -- nobody is moved to where they are
      have hsilent : h.Silent (.onSession connection (.requestUserMove user channel password)) :=
        ⟨s, session_of_synchronized hsynchronized, by rw [hrecord]; exact hthere⟩
      exact .answer hsilent _
    · exact .joined hsynchronized hrecord hthere
  | requestLocalMute user muted =>
    simp only [performOnSession]
    split_ifs with hlocal
    · exact .refuse _
    cases hrecord : s.directory.user? user with
    | none =>
      simp only [Directory.setLocalMute, Directory.updateUser, hrecord]
      exact .refuse _
    | some record =>
      have hset : s.directory.setLocalMute user muted =
          (true, (s.directory.setLocalMute user muted).2) := by
        simp only [Directory.setLocalMute, Directory.updateUser, hrecord]
      rw [hset]
      exact .muted hsynchronized hlocal hrecord
  | requestSetLocalUserComment comment =>
    simp only [performOnSession]
    split
    · exact .refuse _
    · exact .refuse _
    next hrecord hclient => exact .published hsynchronized hrecord hclient
  | findUserByName name =>
    simp only [performOnSession]
    split
    · exact .refuse _
    · exact .answer (by trivial) _
  | findChannelByName name =>
    simp only [performOnSession]
    split
    · exact .refuse _
    · exact .answer (by trivial) _
  | sendData receivers data dataId => exact sendData_deed hsynchronized receivers data dataId

end OnSession

/-! ## All calls -/

lemma request_deed {call : Call} {asked : ClientRequest}
    (hparcel : h.parcel? plugin call = some (.request asked)) :
    Deed h plugin call (h.request asked (asked.applied h.settings)) := by
  unfold request
  split
  · exact .refuse _
  next hclient => exact .asked hclient hparcel

lemma readSetting_deed (kind : SettingKind) (key : SettingsKey) :
    Deed h plugin (.getSetting kind key) (h.readSetting plugin kind key) := by
  unfold readSetting
  split
  · exact .refuse _
  split
  · exact .answer (by trivial) _
  · exact .answer (by trivial) _
  · exact .answer (by trivial) _
  · exact .lend (by trivial) _ _
  · exact .refuse _

/-- No key leads to what belongs to the client. -/
lemma controls_of_set {settings settings' : AudioSettings} {key : SettingsKey}
    {value : SettingValue} (hset : settings.set key value = .ok settings') :
    settings'.controls = settings.controls := by
  unfold AudioSettings.set at hset
  split at hset <;> cases hset <;> rfl

variable (h plugin)

lemma performAccepted_deed (call : Call) : Deed h plugin call (h.performAccepted plugin call) := by
  cases call with
  | freeMemory address =>
    simp only [performAccepted]
    split
    · exact .spared rfl fun _ _ => trivial
    · exact .spared rfl fun _ _ => trivial
  | verifyCaller => exact .answer (by trivial) _
  | getActiveServerConnection =>
    simp only [performAccepted]
    split
    · exact .refuse _
    · exact .answer (by trivial) _
  | isConnectionSynchronized connection =>
    simp only [performAccepted]
    split
    · exact .refuse _
    · exact .answer (by trivial) _
  | onSession connection call =>
    simp only [performAccepted]
    split
    · exact .refuse _
    next hsynchronized => exact performOnSession_deed hsynchronized call
  | getLocalUserTransmissionMode => exact .answer (by trivial) _
  | isLocalUserMuted => exact .answer (by trivial) _
  | isLocalUserDeafened => exact .answer (by trivial) _
  | requestLocalUserTransmissionMode raw =>
    simp only [performAccepted]
    split
    · exact .refuse _
    next mode hmode =>
    have hparcel : h.parcel? plugin (.requestLocalUserTransmissionMode raw) =
        some (.request (.transmissionMode mode)) := by
      rw [parcel?, hmode, Option.map_some]
    exact request_deed hparcel
  | requestMicrophoneActivationOverwrite activate => exact .tuned rfl trivial
  | requestLocalUserMute muted =>
    have hparcel : h.parcel? plugin (.requestLocalUserMute muted) = some (.request (.mute muted)) :=
      rfl
    exact request_deed hparcel
  | requestLocalUserDeaf deafened =>
    have hparcel : h.parcel? plugin (.requestLocalUserDeaf deafened) =
        some (.request (.deaf deafened)) := rfl
    exact request_deed hparcel
  | getSetting kind key => exact readSetting_deed kind key
  | setSetting key value =>
    simp only [performAccepted]
    split
    · exact .refuse _
    next hset => exact .tuned (controls_of_set hset) trivial
  | log message =>
    simp only [performAccepted]
    split
    · exact .refuse _
    next hname =>
    split
    · exact .crash
    next hwrite => exact .logged hname hwrite
  | playSample path volume =>
    simp only [performAccepted]
    split
    · exact .refuse _
    next haudio =>
    split
    · exact .refuse _
    next hplay => exact .played haudio hplay

/-- What any call can do to the host, apart from what is lent. -/
lemma perform_deed (call : Call) : Deed h plugin call (h.perform plugin call) := by
  unfold perform
  split
  · exact h.performAccepted_deed plugin call
  split
  · exact .refuse _
  · exact h.performAccepted_deed plugin call

end Host

/-! ## Requests -/

namespace Service

variable (s : Service) (r : PluginRequest)

/-- What comes of a request: nothing is performed, and it fails; or a call is performed, and the
request succeeds if the call does. -/
lemma serve_performed :
    ((s.serve r).service = s ∧ (s.serve r).status ≠ Status.ok) ∨
      ∃ call, r.call? = some call ∧
        (s.serve r).service = s.withHost (s.host.perform r.plugin call).host ∧
        ((s.serve r).status = Status.ok ↔
          ∃ reply, (s.host.perform r.plugin call).result = some (.ok reply)) := by
  rcases hcall : r.call? with _ | call
  · obtain ⟨code, hserve⟩ := serve_of_missing (s := s) hcall
    rw [hserve]
    exact .inl ⟨rfl, raw_ne_ok code⟩
  rcases hrunning : s.running with _ | _
  · rw [serve_of_call hcall, call_of_stopped r.thread r.plugin call hrunning]
    exact .inl ⟨rfl, raw_ne_ok .internalError⟩
  refine .inr ⟨call, rfl, ?_⟩
  rcases hperform : s.host.perform r.plugin call with ⟨_ | code | reply, host⟩
  · obtain ⟨code, hserve⟩ := serve_of_crash hrunning hcall hperform
    rw [hserve]
    refine ⟨rfl, fun hok => absurd hok (raw_ne_ok code), ?_⟩
    rintro ⟨reply, hreply⟩
    cases hreply
  · rw [serve_of_result hrunning hcall hperform]
    refine ⟨rfl, fun hok => absurd hok (raw_ne_ok code), ?_⟩
    rintro ⟨reply, hreply⟩
    cases hreply
  · rw [serve_of_result hrunning hcall hperform]
    exact ⟨rfl, fun _ => ⟨reply, rfl⟩, fun _ => rfl⟩

/-! A relation between hosts that every deed brings about holds between the host before a request
and after it; and if the relation is transitive, so it does for any number of requests. -/

section Related

variable (related : Host → Host → Prop) (hrefl : ∀ h, related h h)
  (hdeed : ∀ {h plugin call outcome}, Host.Deed h plugin call outcome → related h outcome.host)

include hrefl hdeed

lemma serve_related : related s.host (s.serve r).service.host := by
  obtain ⟨hservice, -⟩ | ⟨call, -, hservice, -⟩ := s.serve_performed r
  · rw [hservice]
    exact hrefl _
  · rw [hservice]
    exact hdeed (s.host.perform_deed r.plugin call)

lemma serveAll_related (htrans : ∀ {h h' h''}, related h h' → related h' h'' → related h h'')
    (rs : List PluginRequest) : related s.host (s.serveAll rs).2.host := by
  induction rs generalizing s with
  | nil => exact hrefl _
  | cons r rs ih => exact htrans (s.serve_related r related hrefl hdeed) (ih _)

end Related

end Service

end PluginHost
