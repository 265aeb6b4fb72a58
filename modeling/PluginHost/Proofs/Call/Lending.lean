/-
# What lending calls lend

Ten calls give their caller a buffer.  Each of them reads something of the host
(`Host.reading`) and lends it under the name of the call (`Call.lender?`), after it has perhaps
written a text that was fetched into the directory (`Host.filled`).

No other call lends, and only one call frees.  So there are three things that a call can do to
the ledger (`Host.Entry`): leave it alone, take a buffer with what was read, or free one.
-/
import PluginHost.Proofs.Call.Effect

namespace PluginHost

/-- The name under which a call lends, if it does. -/
def Call.lender? : Call → Option String
  | onSession _ (.getUserName _) => some "get_user_name"
  | onSession _ (.getChannelName _) => some "get_channel_name"
  | onSession _ .getAllUsers => some "get_all_users"
  | onSession _ .getAllChannels => some "get_all_channels"
  | onSession _ (.getUsersInChannel _) => some "get_users_in_channel"
  | onSession _ (.getUserHash _) => some "get_user_hash"
  | onSession _ .getServerHash => some "get_server_hash"
  | onSession _ (.getUserComment _) => some "get_user_comment"
  | onSession _ (.getChannelDescription _) => some "get_channel_description"
  | getSetting .string _ => some "get_setting_string"
  | _ => none

namespace BlobStore

variable (blobs : BlobStore)

/-- The text under a hash.  One without octets counts as missing. -/
def text? (hash : Bytes) : Option String :=
  ((blobs.get? hash).filter fun content => content ≠ []).map Utf8.repair

/-- The text that has to be fetched for a record that holds `text` and `hash`. -/
def fetched? (text : String) (hash : Bytes) : Option String :=
  if text ≠ "" ∨ hash = [] then none else blobs.text? hash

/-- The text that a record stands for that holds `text` and `hash`. -/
def textOf (text : String) (hash : Bytes) : Option String :=
  if text ≠ "" ∨ hash = [] then some text else blobs.text? hash

end BlobStore

namespace Host

/-- What a call about the session `s` lends. -/
def sessionReading (h : Host) (s : Session) : SessionCall → Option Contents
  | .getUserName user => (s.directory.user? user).map fun r => .ofText r.name
  | .getChannelName channel => (s.directory.channel? channel).map fun r => .ofText r.name
  | .getAllUsers => some (.userIds s.directory.userIds)
  | .getAllChannels => some (.channelIds s.directory.channelIds)
  | .getUsersInChannel channel => (s.directory.usersIn channel).map .userIds
  | .getUserHash user => (s.directory.user? user).map fun r => .ofText r.hash
  | .getServerHash => some (.ofText (Hex.encode s.link.digest))
  | .getUserComment user =>
    ((s.directory.user? user).bind fun r => h.blobs.textOf r.comment r.commentHash).map .ofText
  | .getChannelDescription channel =>
    ((s.directory.channel? channel).bind fun r =>
      h.blobs.textOf r.description r.descriptionHash).map .ofText
  | .getLocalUserId | .getChannelOfUser _ | .isUserLocallyMuted _ | .requestUserMove ..
  | .requestLocalMute .. | .requestSetLocalUserComment _ | .findUserByName _
  | .findChannelByName _ | .sendData .. => none

/-- What a call lends. -/
def reading (h : Host) : Call → Option Contents
  | .onSession _ call => h.session.bind fun s => h.sessionReading s call
  | .getSetting .string key =>
    match h.settings.get key with
    | some (.string text) => some (.ofText text)
    | _ => none
  | _ => none

/-- The host after a call about the session `s` has written what it fetched into the directory. -/
def filled (h : Host) (s : Session) : SessionCall → Host
  | .getUserComment user =>
    match (s.directory.user? user).bind fun r => h.blobs.fetched? r.comment r.commentHash with
    | some text => h.withDirectory s (s.directory.setUserComment user text).2
    | none => h
  | .getChannelDescription channel =>
    match (s.directory.channel? channel).bind fun r =>
        h.blobs.fetched? r.description r.descriptionHash with
    | some text => h.withDirectory s (s.directory.setChannelDescription channel text).2
    | none => h
  | _ => h

end Host

/-- The buffer in a reply. -/
def Reply.buffer? : Reply → Option Buffer
  | lent buffer => some buffer
  | _ => none

/-- The ledger is that of `h` after a call, and no buffer was given. -/
structure Outcome.Spares (outcome : Outcome) (h : Host) : Prop where
  ledger_eq : outcome.host.ledger = h.ledger
  allocator_eq : outcome.host.allocator = h.allocator
  reply_ne : ∀ buffer, outcome.result ≠ some (.ok (.lent buffer))

namespace Host

/-- What a call by `plugin` can do to the ledger. -/
inductive Entry (h : Host) (plugin : PluginId) (call : Call) : Outcome → Prop
  /-- Nothing.  A call that could have lent is refused then. -/
  | spared (outcome : Outcome) (hspares : outcome.Spares h)
      (hlender : call.lender? ≠ none → ∃ code, outcome = h.refuse code) :
      Entry h plugin call outcome
  /-- A buffer is lent, with what was read, under the name of the call. -/
  | lent (host : Host) (name : String) (contents : Contents) (hledger : host.ledger = h.ledger)
      (hallocator : host.allocator = h.allocator) (hname : call.lender? = some name)
      (hreading : h.reading call = some contents) :
      Entry h plugin call (host.lend plugin name contents)
  /-- A buffer is freed, if there is one at the address. -/
  | freed (address : Address) (hcall : call = .freeMemory address) :
      Entry h plugin call (h.performAccepted plugin (.freeMemory address))

/-! ## Calls about a session -/

variable (h : Host) (plugin : PluginId)

lemma resolve_eq (blobs : BlobStore) (text : String) (hash : Bytes) :
    resolve blobs text hash =
      if text ≠ "" ∨ hash = [] then .ok (.known text)
      else (blobs.text? hash).elim (.error .unsynchronizedBlob)
        fun found => .ok (.fetched found) := by
  unfold resolve BlobStore.text?
  split_ifs with hknown
  · rfl
  · rcases blobs.get? hash with _ | _ | ⟨octet, octets⟩ <;> rfl

lemma filled_ledger (s : Session) (call : SessionCall) :
    (h.filled s call).ledger = h.ledger ∧ (h.filled s call).allocator = h.allocator := by
  cases call with
  | getUserComment user =>
    simp only [filled]
    split <;> exact ⟨rfl, rfl⟩
  | getChannelDescription channel =>
    simp only [filled]
    split <;> exact ⟨rfl, rfl⟩
  | _ => exact ⟨rfl, rfl⟩

lemma synchronized_eq {h : Host} {s : Session} {localUser : UserId} (hsession : h.session = some s)
    (hlocal : s.localUser = some localUser) :
    h.synchronized s.connection = .ok (s, localUser) := by
  simp [synchronized, connection, hsession, hlocal]

lemma session_of_synchronized {h : Host} {connection : ConnectionHandle} {s : Session}
    {localUser : UserId} (hsynchronized : h.synchronized connection = .ok (s, localUser)) :
    h.session = some s := by
  unfold synchronized at hsynchronized
  split at hsynchronized
  · cases hsynchronized
  next session hconnection =>
  split at hsynchronized
  · cases hsynchronized
  cases hsynchronized
  unfold Host.connection at hconnection
  split at hconnection
  · cases hconnection
  next hsession =>
  split at hconnection
  · cases hconnection
    exact hsession
  · cases hconnection

/-- A lending call about a session lends what it reads, or is refused. -/
lemma performOnSession_of_lender (s : Session) (localUser : UserId) (call : SessionCall)
    {connection : ConnectionHandle} {name : String}
    (hname : (Call.onSession connection call).lender? = some name) :
    match h.sessionReading s call with
    | some contents => h.performOnSession plugin s localUser call =
        (h.filled s call).lend plugin name contents
    | none => ∃ code, h.performOnSession plugin s localUser call = h.refuse code := by
  cases call with
  | getUserName user =>
    cases hname
    simp only [performOnSession, sessionReading, filled]
    rcases s.directory.user? user with _ | record
    · exact ⟨_, rfl⟩
    · rfl
  | getChannelName channel =>
    cases hname
    simp only [performOnSession, sessionReading, filled]
    rcases s.directory.channel? channel with _ | record
    · exact ⟨_, rfl⟩
    · rfl
  | getAllUsers =>
    cases hname
    rfl
  | getAllChannels =>
    cases hname
    rfl
  | getUsersInChannel channel =>
    cases hname
    simp only [performOnSession, sessionReading, filled]
    rcases s.directory.usersIn channel with _ | users
    · exact ⟨_, rfl⟩
    · rfl
  | getUserHash user =>
    cases hname
    simp only [performOnSession, sessionReading, filled]
    rcases s.directory.user? user with _ | record
    · exact ⟨_, rfl⟩
    · rfl
  | getServerHash =>
    cases hname
    rfl
  | getUserComment user =>
    cases hname
    simp only [performOnSession, sessionReading, filled]
    rcases s.directory.user? user with _ | record
    · exact ⟨_, rfl⟩
    simp only [resolve_eq, Option.bind_some, BlobStore.fetched?, BlobStore.textOf]
    split_ifs
    · rfl
    · rcases h.blobs.text? record.commentHash with _ | text
      · exact ⟨_, rfl⟩
      · rfl
  | getChannelDescription channel =>
    cases hname
    simp only [performOnSession, sessionReading, filled]
    rcases s.directory.channel? channel with _ | record
    · exact ⟨_, rfl⟩
    simp only [resolve_eq, Option.bind_some, BlobStore.fetched?, BlobStore.textOf]
    split_ifs
    · rfl
    · rcases h.blobs.text? record.descriptionHash with _ | text
      · exact ⟨_, rfl⟩
      · rfl
  | _ => cases hname

/-! ## Calls that do not lend -/

section Spared

variable {h plugin}

lemma spares_refuse (code : ErrorCode) : (h.refuse code).Spares h := ⟨rfl, rfl, nofun⟩

lemma spares_crash {host : Host} (hledger : host.ledger = h.ledger)
    (hallocator : host.allocator = h.allocator) : (⟨none, host⟩ : Outcome).Spares h :=
  ⟨hledger, hallocator, nofun⟩

lemma spares_answer {host : Host} {reply : Reply} (hledger : host.ledger = h.ledger)
    (hallocator : host.allocator = h.allocator) (hreply : reply.buffer? = none) :
    (host.answer reply).Spares h := by
  refine ⟨hledger, hallocator, fun buffer hlent => ?_⟩
  cases hlent
  cases hreply

lemma spares_unit {host : Host} (hledger : host.ledger = h.ledger)
    (hallocator : host.allocator = h.allocator) : (host.answer .unit).Spares h :=
  spares_answer hledger hallocator rfl

lemma sendData_spares (s : Session) (localUser : UserId) (receivers : List UserId) (data : Bytes)
    (dataId : String) : (h.sendData s localUser receivers data dataId).Spares h := by
  unfold sendData
  split_ifs
  · exact spares_refuse _
  · exact spares_refuse _
  · exact spares_refuse _
  · exact spares_refuse _
  · exact spares_unit rfl rfl

lemma request_spares (asked : ClientRequest) (settings : AudioSettings) :
    (h.request asked settings).Spares h := by
  unfold request
  split
  · exact spares_refuse _
  · exact spares_unit rfl rfl

lemma performOnSession_spares (s : Session) (localUser : UserId) {call : SessionCall}
    {connection : ConnectionHandle} (hname : (Call.onSession connection call).lender? = none) :
    (h.performOnSession plugin s localUser call).Spares h := by
  cases call with
  | getLocalUserId => exact spares_answer rfl rfl rfl
  | getChannelOfUser user =>
    simp only [performOnSession]
    split
    · exact spares_refuse _
    split
    · exact spares_refuse _
    · exact spares_answer rfl rfl rfl
  | isUserLocallyMuted user =>
    simp only [performOnSession]
    split
    · exact spares_refuse _
    · exact spares_answer rfl rfl rfl
  | requestUserMove user channel password =>
    simp only [performOnSession]
    split
    · exact spares_refuse _
    · exact spares_refuse _
    · split
      · exact spares_unit rfl rfl
      · exact spares_unit rfl rfl
  | requestLocalMute user muted =>
    simp only [performOnSession]
    split
    · exact spares_refuse _
    split
    · exact spares_refuse _
    · exact spares_unit rfl rfl
  | requestSetLocalUserComment comment =>
    simp only [performOnSession]
    split
    · exact spares_refuse _
    · exact spares_refuse _
    · exact spares_unit rfl rfl
  | findUserByName name =>
    simp only [performOnSession]
    split
    · exact spares_refuse _
    · exact spares_answer rfl rfl rfl
  | findChannelByName name =>
    simp only [performOnSession]
    split
    · exact spares_refuse _
    · exact spares_answer rfl rfl rfl
  | sendData receivers data dataId => exact sendData_spares s localUser receivers data dataId
  | _ => cases hname

/-! ## All calls -/

lemma readSetting_entry (kind : SettingKind) (key : SettingsKey) :
    Entry h plugin (.getSetting kind key) (h.readSetting plugin kind key) := by
  unfold readSetting
  rcases hvalue : h.settings.get key with _ | value
  · exact .spared _ (spares_refuse _) fun _ => ⟨_, rfl⟩
  cases kind with
  | string =>
    cases value with
    | string text => exact .lent h _ _ rfl rfl rfl (by simp [reading, hvalue])
    | _ => exact .spared _ (spares_refuse _) fun _ => ⟨_, rfl⟩
  | bool =>
    cases value with
    | bool value => exact .spared _ (spares_answer rfl rfl rfl) fun hname => absurd rfl hname
    | _ => exact .spared _ (spares_refuse _) fun _ => ⟨_, rfl⟩
  | int =>
    cases value with
    | int value => exact .spared _ (spares_answer rfl rfl rfl) fun hname => absurd rfl hname
    | _ => exact .spared _ (spares_refuse _) fun _ => ⟨_, rfl⟩
  | double =>
    cases value with
    | double value => exact .spared _ (spares_answer rfl rfl rfl) fun hname => absurd rfl hname
    | _ => exact .spared _ (spares_refuse _) fun _ => ⟨_, rfl⟩

variable (h plugin) in
lemma performAccepted_entry (call : Call) :
    Entry h plugin call (h.performAccepted plugin call) := by
  have hspared : ∀ {call : Call} {outcome : Outcome}, call.lender? = none → outcome.Spares h →
      Entry h plugin call outcome := fun hname hspares =>
    .spared _ hspares fun hlends => absurd hname hlends
  cases call with
  | freeMemory address => exact .freed address rfl
  | verifyCaller => exact hspared rfl (spares_unit rfl rfl)
  | getActiveServerConnection =>
    refine hspared rfl ?_
    simp only [performAccepted]
    split
    · exact spares_refuse _
    · exact spares_answer rfl rfl rfl
  | isConnectionSynchronized connection =>
    refine hspared rfl ?_
    simp only [performAccepted]
    split
    · exact spares_refuse _
    · exact spares_answer rfl rfl rfl
  | onSession connection call =>
    simp only [performAccepted]
    rcases hsynchronized : h.synchronized connection with code | ⟨s, localUser⟩
    · exact .spared _ (spares_refuse _) fun _ => ⟨_, rfl⟩
    rcases hname : (Call.onSession connection call).lender? with _ | name
    · exact hspared hname (performOnSession_spares s localUser hname)
    have hperform := h.performOnSession_of_lender plugin s localUser call hname
    rcases hreading : h.sessionReading s call with _ | contents
    · rw [hreading] at hperform
      obtain ⟨code, hcode⟩ := hperform
      simp only [hcode]
      exact .spared _ (spares_refuse _) fun _ => ⟨code, rfl⟩
    · rw [hreading] at hperform
      simp only [hperform]
      obtain ⟨hledger, hallocator⟩ := h.filled_ledger s call
      refine .lent _ _ _ hledger hallocator hname ?_
      rw [reading, session_of_synchronized hsynchronized, Option.bind_some, hreading]
  | getLocalUserTransmissionMode => exact hspared rfl (spares_answer rfl rfl rfl)
  | isLocalUserMuted => exact hspared rfl (spares_answer rfl rfl rfl)
  | isLocalUserDeafened => exact hspared rfl (spares_answer rfl rfl rfl)
  | requestLocalUserTransmissionMode mode =>
    refine hspared rfl ?_
    simp only [performAccepted]
    split
    · exact spares_refuse _
    · exact request_spares _ _
  | requestMicrophoneActivationOverwrite activate => exact hspared rfl (spares_unit rfl rfl)
  | requestLocalUserMute muted => exact hspared rfl (request_spares _ _)
  | requestLocalUserDeaf deafened => exact hspared rfl (request_spares _ _)
  | getSetting kind key => exact readSetting_entry kind key
  | setSetting key value =>
    refine hspared rfl ?_
    simp only [performAccepted]
    split
    · exact spares_refuse _
    · exact spares_unit rfl rfl
  | log message =>
    refine hspared rfl ?_
    simp only [performAccepted]
    split
    · exact spares_refuse _
    split
    · exact spares_crash rfl rfl
    · exact spares_unit rfl rfl
  | playSample path volume =>
    refine hspared rfl ?_
    simp only [performAccepted]
    split
    · exact spares_refuse _
    split
    · exact spares_refuse _
    · exact spares_unit rfl rfl

variable (h plugin) in
/-- What any call can do to the ledger. -/
lemma perform_entry (call : Call) : Entry h plugin call (h.perform plugin call) := by
  unfold perform
  split
  · exact h.performAccepted_entry plugin call
  · split
    · exact .spared _ (spares_refuse _) fun _ => ⟨_, rfl⟩
    · exact h.performAccepted_entry plugin call

end Spared

end Host
end PluginHost
