/-
# Which check decides

An entry of a function table can have several reasons to refuse a call.  They are checked one
after the other, and the first check that the call does not pass decides:

* is the caller accepted;
* are all addresses there that the entry needs;
* is the handle that of the session, if the entry takes one;
* is the local user known, if the entry needs to know;
* and only then what the entry asks for by itself.

The first four are the same for all entries (`Host.preliminaryChecks`), the others are listed
entry by entry (`Host.ownChecks`).  The main statement is that the status of an entry is the code
of the first check that fails, and the status of success if none does (`ApiTable.enter_status`).
-/
import PluginHost.Proofs.Call.Effect
import PluginHost.Proofs.Registry
import PluginHost.Table

namespace PluginHost

/-! ## Checks -/

/-- A check that a call has to pass. -/
structure Check where
  /-- Whether the call passes. -/
  passed : Bool
  /-- The code of a call that does not. -/
  code : ErrorCode
deriving DecidableEq, Repr

/-- The code of the first check that is not passed. -/
def firstFailing (checks : List Check) : Option ErrorCode :=
  (checks.find? fun check => !check.passed).map Check.code

@[simp] lemma firstFailing_nil : firstFailing [] = none := rfl

@[simp] lemma firstFailing_cons (passed : Bool) (code : ErrorCode) (checks : List Check) :
    firstFailing (⟨passed, code⟩ :: checks) =
      if passed then firstFailing checks else some code := by
  cases passed <;> rfl

/-- What the caller is told whose call has crashed.  On a thread of its own it waits in vain. -/
def Thread.crashCode : Thread → ErrorCode
  | host => .internalError
  | plugin => .apiRequestTimeout

/-- What the caller is told. -/
def Outcome.seen (outcome : Outcome) (thread : Thread) : CallResult Reply :=
  outcome.result.getD (.error thread.crashCode)

/-- A call is refused by the first check that it does not pass, and answered if it passes all. -/
def Outcome.DecidedBy (outcome : Outcome) (thread : Thread) (checks : List Check) : Prop :=
  match firstFailing checks with
  | some code => outcome.seen thread = .error code
  | none => ∃ reply, outcome.seen thread = .ok reply

/-! ## The checks of every entry -/

/-- The calls of a plugin are accepted: its entry is enabled, and so is the whole registry. -/
def Registry.Accepts (r : Registry) (plugin : PluginId) : Prop :=
  r.enabled = true ∧ ∃ entry, r.get? plugin = some entry ∧ entry.enabled = true

lemma Registry.accepts_iff (r : Registry) (plugin : PluginId) :
    r.Accepts plugin ↔ r.contains plugin = true := contains_iff.symm

instance (r : Registry) (plugin : PluginId) : Decidable (r.Accepts plugin) :=
  decidable_of_iff _ (r.accepts_iff plugin).symm

/-- Whether the address of a list is missing.  Of an empty list it is not needed. -/
def Items.missing {α : Type} (items : Items α) : Bool :=
  items.count != 0 && items.pointer.isNone

/-- What a call asks of the session. -/
inductive SessionNeed where
  /-- Nothing. -/
  | nothing
  /-- There is a session with this handle. -/
  | current (handle : ConnectionHandle)
  /-- There is a session with this handle, and its local user is known. -/
  | synchronized (handle : ConnectionHandle)
deriving DecidableEq, Repr

namespace SessionNeed

/-- The handle that is asked for. -/
def handle? : SessionNeed → Option ConnectionHandle
  | nothing => none
  | current handle => some handle
  | synchronized handle => some handle

/-- Whether the local user must be known. -/
def isSynchronized : SessionNeed → Bool
  | synchronized _ => true
  | _ => false

end SessionNeed

/-- What a call asks of the session. -/
def Call.need : Call → SessionNeed
  | isConnectionSynchronized handle => .current handle
  | onSession handle _ => .synchronized handle
  | _ => .nothing

namespace TableCall

/-- Whether an argument is missing that the entry needs.  A password is not needed. -/
def lacksInput : TableCall → Bool
  | setSettingString _ value => value.isNone
  | requestSetLocalUserComment _ comment => comment.isNone
  | findUserByName _ name => name.isNone
  | findChannelByName _ name => name.isNone
  | sendData _ users data dataId => users.missing || data.missing || dataId.isNone
  | log message => message.isNone
  | playSample path _ => path.isNone
  | _ => false

/-- What an entry writes. -/
def written : TableCall → Written
  | plain call => call.written
  | getSetting _ _ => .value
  | findUserByName _ _ => .value
  | findChannelByName _ _ => .value
  | _ => .nothing

/-- Whether an address is missing to which the entry writes. -/
def lacksOutput (call : TableCall) (targets : Targets) : Bool :=
  match call.written with
  | .nothing => false
  | .value => !targets.out
  | .list => !targets.out || !targets.count

/-- Whether an address is missing that the entry needs. -/
def lacks (call : TableCall) (targets : Targets) : Bool :=
  call.lacksInput || call.lacksOutput targets

/-- What an entry asks of the session. -/
def need : TableCall → SessionNeed
  | plain call => call.need
  | requestUserMove handle _ _ _ => .synchronized handle
  | requestSetLocalUserComment handle _ => .synchronized handle
  | findUserByName handle _ => .synchronized handle
  | findChannelByName handle _ => .synchronized handle
  | sendData handle _ _ _ => .synchronized handle
  | _ => .nothing

end TableCall

namespace Host

/-- What a call asks of the session, as checks. -/
def needChecks (h : Host) (need : SessionNeed) : List Check :=
  [⟨need.handle?.all fun handle => h.session.any (·.connection = handle), .connectionNotFound⟩,
    ⟨!need.isSynchronized || (h.session.bind Session.localUser).isSome,
      .connectionUnsynchronized⟩]

/-- The checks in front of an entry's own, in order: the caller is accepted, no address is missing,
and the session is what the call asks for. -/
def preliminaryChecks (h : Host) (plugin : PluginId) (call : TableCall) (targets : Targets) :
    List Check :=
  ⟨h.registry.Accepts plugin, .invalidPluginId⟩ :: ⟨!call.lacks targets, .genericError⟩ ::
    h.needChecks call.need

end Host

/-! ## The checks of an entry's own -/

/-- The key of a setting tells the type of its value. -/
def SettingsKey.kind? : SettingsKey → Option SettingKind
  | invalid => none
  | voiceHold => some .int
  | _ => some .double

/-- The type of a value. -/
def SettingValue.kind : SettingValue → SettingKind
  | bool _ => .bool
  | int _ => .int
  | double _ => .double
  | string _ => .string

/-- Whether a buffer can be entered at a place. -/
def Ledger.accepts (l : Ledger) (place : Address) : Bool :=
  !l.contains place && (!l.vacant.isEmpty || l.slots.length < capacity)

namespace Host

/-- There is a place for a buffer. -/
def lendCheck (h : Host) : Check := ⟨h.ledger.accepts h.allocator.fresh, .internalError⟩

/-- Whether a text is to be had: it is known, or there is none, or it is found by its hash. -/
def hasText (h : Host) (text : String) (hash : Bytes) : Bool :=
  text ≠ "" || hash = [] || (h.blobs.get? hash).any (· ≠ [])

/-- The checks of a call about the session `s`, whose local user is `localUser`. -/
def sessionConditions (h : Host) (s : Session) (localUser : UserId) : SessionCall → List Check
  | .getLocalUserId => []
  | .getUserName user => [⟨(s.directory.user? user).isSome, .userNotFound⟩, h.lendCheck]
  | .getChannelName channel =>
    [⟨(s.directory.channel? channel).isSome, .channelNotFound⟩, h.lendCheck]
  | .getAllUsers => [h.lendCheck]
  | .getAllChannels => [h.lendCheck]
  | .getChannelOfUser user =>
    [⟨(s.directory.user? user).isSome, .userNotFound⟩,
      ⟨((s.directory.user? user).bind UserRecord.channel).isSome, .genericError⟩]
  | .getUsersInChannel channel =>
    [⟨(s.directory.channel? channel).isSome, .channelNotFound⟩, h.lendCheck]
  | .isUserLocallyMuted user => [⟨(s.directory.user? user).isSome, .userNotFound⟩]
  | .getUserHash user => [⟨(s.directory.user? user).isSome, .userNotFound⟩, h.lendCheck]
  | .getServerHash => [h.lendCheck]
  | .getUserComment user =>
    [⟨(s.directory.user? user).isSome, .userNotFound⟩,
      ⟨(s.directory.user? user).all fun r => h.hasText r.comment r.commentHash,
        .unsynchronizedBlob⟩,
      h.lendCheck]
  | .getChannelDescription channel =>
    [⟨(s.directory.channel? channel).isSome, .channelNotFound⟩,
      ⟨(s.directory.channel? channel).all fun r => h.hasText r.description r.descriptionHash,
        .unsynchronizedBlob⟩,
      h.lendCheck]
  | .requestUserMove user channel _ =>
    [⟨(s.directory.user? user).isSome, .userNotFound⟩,
      ⟨(s.directory.channel? channel).isSome, .channelNotFound⟩]
  | .requestLocalMute user _ =>
    [⟨user ≠ localUser, .invalidMuteTarget⟩, ⟨(s.directory.user? user).isSome, .userNotFound⟩]
  | .requestSetLocalUserComment _ =>
    [⟨(s.directory.user? localUser).isSome, .userNotFound⟩, ⟨h.client.isSome, .internalError⟩]
  | .findUserByName name => [⟨(s.directory.findUser name).isSome, .userNotFound⟩]
  | .findChannelByName name => [⟨(s.directory.findChannel name).isSome, .channelNotFound⟩]
  | .sendData receivers data dataId =>
    [⟨data.length ≤ dataLimit, .dataTooBig⟩,
      ⟨Utf8.size dataId ≤ dataIdLimit, .dataIdTooLong⟩,
      ⟨receivers.all fun id => (s.directory.user? id).isSome, .userNotFound⟩,
      ⟨!s.link.serverVersion.before dataVersion, .operationUnsupportedByServer⟩]

/-- The checks of a call, besides those of every call. -/
def conditions (h : Host) (thread : Thread) (plugin : PluginId) : Call → List Check
  | .getActiveServerConnection => [⟨h.session.isSome, .noActiveConnection⟩]
  | .onSession _ call =>
    match h.session.bind fun s => s.localUser.map (s, ·) with
    | none => []
    | some (s, localUser) => h.sessionConditions s localUser call
  | .requestLocalUserTransmissionMode raw =>
    [⟨(TransmissionMode.ofRaw? raw).isSome, .unknownTransmissionMode⟩,
      ⟨h.client.isSome, .internalError⟩]
  | .requestLocalUserMute _ => [⟨h.client.isSome, .internalError⟩]
  | .requestLocalUserDeaf _ => [⟨h.client.isSome, .internalError⟩]
  | .getSetting kind key =>
    [⟨key ≠ .invalid, .unknownSettingsKey⟩, ⟨key.kind? = some kind, .wrongSettingsType⟩]
  | .setSetting key value =>
    [⟨key ≠ .invalid, .unknownSettingsKey⟩, ⟨key.kind? = some value.kind, .wrongSettingsType⟩]
  | .log message =>
    -- nothing refuses a line, but the log may crash on it
    [⟨(h.registry.nameOf plugin).all fun name =>
        (h.log.write (Markup.logLine name message)).isSome,
      thread.crashCode⟩]
  | .playSample path _ =>
    [⟨h.audio.isSome, .audioNotAvailable⟩,
      ⟨h.audio.all fun output => output.files.isFile path, .invalidSample⟩]
  | _ => []

/-- The checks of an entry's own. -/
def ownChecks (h : Host) (table : ApiTable) (thread : Thread) (plugin : PluginId)
    (call : TableCall) : List Check :=
  (call.read? table).elim [] (h.conditions thread plugin)

end Host

/-! ## Reading arguments -/

lemma Items.read_eq_none_iff {α : Type} (items : Items α) :
    items.read = none ↔ items.missing = true := by
  unfold read missing
  by_cases hcount : items.count = 0 <;> simp [hcount]

namespace TableCall

lemma read?_eq_none_iff (table : ApiTable) (call : TableCall) :
    call.read? table = none ↔ call.lacksInput = true := by
  cases call with
  | sendData connection users data dataId =>
    simp only [read?, decode?, lacksInput, Bool.or_eq_true, ← Items.read_eq_none_iff,
      Option.isNone_iff_eq_none]
    rcases users.read with _ | receivers
    · simp
    rcases data.read with _ | octets
    · simp
    · cases dataId <;> simp
  | _ => simp [read?, decode?, lacksInput]

/-- A call that was read writes and asks for what the entry does, and is not performed for anybody
unless the entry takes no address but one to be freed. -/
structure ReadAs (call : TableCall) (read : Call) : Prop where
  written_eq : read.written = call.written
  need_eq : read.need = call.need
  eq_plain : Host.isOpen read = true → call = .plain read

lemma readAs {table : ApiTable} {call : TableCall} {read : Call}
    (hread : call.read? table = some read) : call.ReadAs read := by
  cases call with
  | plain call =>
    cases hread
    exact ⟨rfl, rfl, fun _ => rfl⟩
  | getSetting _ _ | setSettingBool _ _ | setSettingInt _ _ | setSettingDouble _ _
  | requestUserMove _ _ _ _ =>
    cases hread
    exact ⟨rfl, rfl, nofun⟩
  | setSettingString _ _ | requestSetLocalUserComment _ _ | findUserByName _ _
  | findChannelByName _ _ | log _ | playSample _ _ =>
    -- the one text that these entries take was there
    obtain ⟨octets, -, rfl⟩ := Option.map_eq_some_iff.1 hread
    exact ⟨rfl, rfl, nofun⟩
  | sendData connection users data dataId =>
    simp only [read?, decode?] at hread
    split at hread
    · cases hread
      exact ⟨rfl, rfl, nofun⟩
    · cases hread

/-- An entry reads its call unless an address is missing. -/
lemma complete?_eq (table : ApiTable) (targets : Targets) (call : TableCall) :
    call.complete? table targets = if call.lacks targets then none else call.read? table := by
  unfold complete?
  rcases hread : call.read? table with _ | read
  · simp
  · have hinput : call.lacksInput = false := by
      rw [← Bool.not_eq_true, ← read?_eq_none_iff table, hread]
      simp
    simp only [lacks, lacksOutput, hinput, (readAs hread).written_eq, Bool.false_or]
    rcases call.written
    · rfl
    · cases targets.out <;> rfl
    · cases targets.out <;> cases targets.count <;> rfl

lemma exists_read? {call : TableCall} {targets : Targets} (hlacks : call.lacks targets = false)
    (table : ApiTable) :
    ∃ read, call.read? table = some read ∧ call.complete? table targets = some read := by
  have hinput : call.lacksInput = false := (Bool.or_eq_false_iff.1 hlacks).1
  obtain ⟨read, hread⟩ : ∃ read, call.read? table = some read := by
    rw [← Option.ne_none_iff_exists', ne_eq, read?_eq_none_iff, hinput]
    exact Bool.false_ne_true
  refine ⟨read, hread, ?_⟩
  rw [complete?_eq, hlacks, hread]
  rfl

end TableCall

/-! ## Deciding a call -/

namespace Ledger

variable (l : Ledger)

lemma insert_isSome (loan : Loan) :
    (l.insert loan).isSome = (!l.vacant.isEmpty || l.slots.length < capacity) := by
  unfold insert
  rcases l.vacant with _ | ⟨index, vacant⟩
  · by_cases hroom : l.slots.length < capacity <;> simp [hroom]
  · simp

lemma register_isSome (buffer : Buffer) (plugin : PluginId) (name : String) :
    (l.register buffer plugin name).isSome = l.accepts buffer.address := by
  unfold register accepts
  split
  · next hlive => simp [hlive]
  · next hlive => simp [hlive, insert_isSome]

end Ledger

/-- There is a channel exactly if there is a list of the users in it. -/
lemma Directory.isSome_channel? (d : Directory) (channel : ChannelId) :
    (d.channel? channel).isSome = (d.usersIn channel).isSome := by
  unfold channel? usersIn
  rw [Std.TreeMap.isSome_getElem?_eq_contains]
  split
  · next hin => exact hin
  · next hout => exact Bool.eq_false_of_not_eq_true hout

namespace Host

variable {h : Host} {thread : Thread} {plugin : PluginId}

lemma decided_refuse (host : Host) {passed : Bool} (hfails : passed = false) (code : ErrorCode)
    (checks : List Check) :
    (host.refuse code).DecidedBy thread (⟨passed, code⟩ :: checks) := by
  subst hfails
  rfl

lemma decided_pass {passed : Bool} (hpasses : passed = true) {code : ErrorCode}
    {checks : List Check} {outcome : Outcome} (hrest : outcome.DecidedBy thread checks) :
    outcome.DecidedBy thread (⟨passed, code⟩ :: checks) := by
  subst hpasses
  exact hrest

lemma decided_answer (host : Host) (reply : Reply) : (host.answer reply).DecidedBy thread [] :=
  ⟨reply, rfl⟩

/-- A call that has done all else gives a buffer, if the ledger takes it. -/
lemma decided_lend {host : Host} (hledger : host.ledger = h.ledger)
    (hallocator : host.allocator = h.allocator) (name : String) (contents : Contents) :
    (host.lend plugin name contents).DecidedBy thread [h.lendCheck] := by
  have hregister := host.ledger.register_isSome ⟨host.allocator.fresh, contents⟩ plugin name
  unfold lend Ledger.lend lendCheck
  simp only [← hledger, ← hallocator, ← hregister]
  rcases host.ledger.register ⟨host.allocator.fresh, contents⟩ plugin name with _ | ⟨_, _⟩
  · exact decided_refuse host rfl _ _
  · exact decided_pass rfl (decided_answer _ _)

lemma resolve_of_hasText {text : String} {hash : Bytes} (hhas : h.hasText text hash = true) :
    ∃ found, resolve h.blobs text hash = .ok found := by
  unfold hasText at hhas
  unfold resolve
  split_ifs with hknown
  · exact ⟨_, rfl⟩
  · rw [not_or, not_ne_iff] at hknown
    rcases hblob : h.blobs.get? hash with _ | _ | ⟨octet, octets⟩
    · simp [hknown, hblob] at hhas
    · simp [hknown, hblob] at hhas
    · exact ⟨_, rfl⟩

lemma resolve_of_not_hasText {text : String} {hash : Bytes}
    (hhas : h.hasText text hash = false) :
    resolve h.blobs text hash = .error .unsynchronizedBlob := by
  unfold hasText at hhas
  unfold resolve
  split_ifs with hknown
  · rcases hknown with htext | hhash
    · simp [htext] at hhas
    · simp [hhash] at hhas
  · rcases hblob : h.blobs.get? hash with _ | _ | ⟨octet, octets⟩
    · rfl
    · rfl
    · simp [hblob] at hhas

lemma sendData_decided (s : Session) (localUser : UserId) (receivers : List UserId)
    (data : Bytes) (dataId : String) :
    (h.sendData s localUser receivers data dataId).DecidedBy thread
      (h.sessionConditions s localUser (.sendData receivers data dataId)) := by
  unfold sendData sessionConditions
  split_ifs with hdata hid hmissing hold
  · exact decided_refuse h (by simpa using hdata) _ _
  · exact decided_pass (by simpa using hdata) (decided_refuse h (by simpa using hid) _ _)
  · refine decided_pass (by simpa using hdata) (decided_pass (by simpa using hid) ?_)
    exact decided_refuse h (by simpa using hmissing) _ _
  · refine decided_pass (by simpa using hdata) (decided_pass (by simpa using hid) ?_)
    refine decided_pass ?_ (decided_refuse h (by simpa using hold) _ _)
    simpa [Option.isSome_iff_ne_none] using hmissing
  · refine decided_pass (by simpa using hdata) (decided_pass (by simpa using hid) ?_)
    refine decided_pass ?_ (decided_pass (by simpa using hold) (decided_answer _ _))
    simpa [Option.isSome_iff_ne_none] using hmissing

variable (h plugin) in
lemma performOnSession_decided (s : Session) (localUser : UserId) (call : SessionCall) :
    (h.performOnSession plugin s localUser call).DecidedBy thread
      (h.sessionConditions s localUser call) := by
  cases call with
  | getLocalUserId => exact decided_answer _ _
  | getUserName user =>
    simp only [performOnSession, sessionConditions]
    rcases s.directory.user? user with _ | record
    · exact decided_refuse h rfl _ _
    · exact decided_pass rfl (decided_lend rfl rfl _ _)
  | getChannelName channel =>
    simp only [performOnSession, sessionConditions]
    rcases s.directory.channel? channel with _ | record
    · exact decided_refuse h rfl _ _
    · exact decided_pass rfl (decided_lend rfl rfl _ _)
  | getAllUsers => exact decided_lend rfl rfl _ _
  | getAllChannels => exact decided_lend rfl rfl _ _
  | getChannelOfUser user =>
    simp only [performOnSession, sessionConditions]
    rcases s.directory.user? user with _ | record
    · exact decided_refuse h rfl _ _
    refine decided_pass rfl ?_
    simp only [Option.bind_some]
    rcases record.channel with _ | channel
    · exact decided_refuse h rfl _ _
    · exact decided_pass rfl (decided_answer _ _)
  | getUsersInChannel channel =>
    simp only [performOnSession, sessionConditions, Directory.isSome_channel?]
    rcases s.directory.usersIn channel with _ | users
    · exact decided_refuse h rfl _ _
    · exact decided_pass rfl (decided_lend rfl rfl _ _)
  | isUserLocallyMuted user =>
    simp only [performOnSession, sessionConditions]
    rcases s.directory.user? user with _ | record
    · exact decided_refuse h rfl _ _
    · exact decided_pass rfl (decided_answer _ _)
  | getUserHash user =>
    simp only [performOnSession, sessionConditions]
    rcases s.directory.user? user with _ | record
    · exact decided_refuse h rfl _ _
    · exact decided_pass rfl (decided_lend rfl rfl _ _)
  | getServerHash => exact decided_lend rfl rfl _ _
  | getUserComment user =>
    simp only [performOnSession, sessionConditions]
    rcases s.directory.user? user with _ | record
    · exact decided_refuse h rfl _ _
    refine decided_pass rfl ?_
    rcases hhas : h.hasText record.comment record.commentHash with _ | _
    · simp only [resolve_of_not_hasText hhas]
      exact decided_refuse h hhas _ _
    obtain ⟨text | text, hfound⟩ := resolve_of_hasText hhas
    · simp only [hfound]
      exact decided_pass hhas (decided_lend rfl rfl _ _)
    · -- what was fetched is kept in the directory; the ledger is still that of `h`
      simp only [hfound]
      exact decided_pass hhas (decided_lend (by rfl) (by rfl) _ _)
  | getChannelDescription channel =>
    simp only [performOnSession, sessionConditions]
    rcases s.directory.channel? channel with _ | record
    · exact decided_refuse h rfl _ _
    refine decided_pass rfl ?_
    rcases hhas : h.hasText record.description record.descriptionHash with _ | _
    · simp only [resolve_of_not_hasText hhas]
      exact decided_refuse h hhas _ _
    obtain ⟨text | text, hfound⟩ := resolve_of_hasText hhas
    · simp only [hfound]
      exact decided_pass hhas (decided_lend rfl rfl _ _)
    · simp only [hfound]
      exact decided_pass hhas (decided_lend (by rfl) (by rfl) _ _)
  | requestUserMove user channel password =>
    simp only [performOnSession, sessionConditions]
    rcases s.directory.user? user with _ | record
    · exact decided_refuse h rfl _ _
    rcases s.directory.channel? channel with _ | target
    · exact decided_pass rfl (decided_refuse h rfl _ _)
    · refine decided_pass rfl (decided_pass rfl ?_)
      dsimp only
      split <;> exact decided_answer _ _
  | requestLocalMute user muted =>
    simp only [performOnSession, sessionConditions, Directory.setLocalMute, Directory.updateUser]
    split_ifs with hself
    · exact decided_refuse h (by simpa using hself) _ _
    · refine decided_pass (by simpa using hself) ?_
      rcases s.directory.user? user with _ | record
      · exact decided_refuse h rfl _ _
      · exact decided_pass rfl (decided_answer _ _)
  | requestSetLocalUserComment comment =>
    simp only [performOnSession, sessionConditions]
    rcases s.directory.user? localUser with _ | record
    · exact decided_refuse h rfl _ _
    rcases h.client with _ | requests
    · exact decided_pass rfl (decided_refuse h rfl _ _)
    · exact decided_pass rfl (decided_pass rfl (decided_answer _ _))
  | findUserByName name =>
    simp only [performOnSession, sessionConditions]
    rcases s.directory.findUser name with _ | user
    · exact decided_refuse h rfl _ _
    · exact decided_pass rfl (decided_answer _ _)
  | findChannelByName name =>
    simp only [performOnSession, sessionConditions]
    rcases s.directory.findChannel name with _ | channel
    · exact decided_refuse h rfl _ _
    · exact decided_pass rfl (decided_answer _ _)
  | sendData receivers data dataId => exact sendData_decided s localUser receivers data dataId

lemma request_decided (asked : ClientRequest) (settings : AudioSettings) :
    (h.request asked settings).DecidedBy thread [⟨h.client.isSome, .internalError⟩] := by
  unfold request
  rcases h.client with _ | requests
  · exact decided_refuse h rfl _ _
  · exact decided_pass rfl (decided_answer _ _)

variable (plugin) in
lemma readSetting_decided (kind : SettingKind) (key : SettingsKey) :
    (h.readSetting plugin kind key).DecidedBy thread
      [⟨key ≠ .invalid, .unknownSettingsKey⟩, ⟨key.kind? = some kind, .wrongSettingsType⟩] := by
  cases key with
  | invalid => exact decided_refuse h rfl _ _
  | voiceHold =>
    refine decided_pass rfl ?_
    cases kind with
    | int => exact decided_pass rfl (decided_answer _ _)
    | _ => exact decided_refuse h rfl _ _
  | _ =>
    -- all other keys are those of doubles
    refine decided_pass rfl ?_
    cases kind with
    | double => exact decided_pass rfl (decided_answer _ _)
    | _ => exact decided_refuse h rfl _ _

variable (plugin) in
lemma setSetting_decided (key : SettingsKey) (value : SettingValue) :
    (h.performAccepted plugin (.setSetting key value)).DecidedBy thread
      [⟨key ≠ .invalid, .unknownSettingsKey⟩,
        ⟨key.kind? = some value.kind, .wrongSettingsType⟩] := by
  cases key with
  | invalid => exact decided_refuse h rfl _ _
  | voiceHold =>
    refine decided_pass rfl ?_
    cases value with
    | int value => exact decided_pass rfl (decided_answer _ _)
    | _ => exact decided_refuse h rfl _ _
  | _ =>
    refine decided_pass rfl ?_
    cases value with
    | double value => exact decided_pass rfl (decided_answer _ _)
    | _ => exact decided_refuse h rfl _ _

lemma exists_nameOf (haccepts : h.registry.Accepts plugin) :
    ∃ name, h.registry.nameOf plugin = some name := by
  obtain ⟨entry, hentry, -⟩ := haccepts.2
  rw [Registry.get?] at hentry
  rw [Registry.accepts_iff] at haccepts
  exact ⟨entry.info.name, by simp [Registry.nameOf, haccepts, hentry]⟩

/-- An accepted call is decided by what it asks of the session, and then by its own checks. -/
lemma performAccepted_decided (call : Call) (haccepts : h.registry.Accepts plugin)
    (hopen : isOpen call = false) :
    (h.performAccepted plugin call).DecidedBy thread
      (h.needChecks call.need ++ h.conditions thread plugin call) := by
  cases call with
  | freeMemory address => cases hopen
  | verifyCaller => exact decided_pass rfl (decided_pass rfl (decided_answer _ _))
  | getActiveServerConnection =>
    refine decided_pass rfl (decided_pass rfl ?_)
    simp only [performAccepted, conditions]
    rcases h.session with _ | session
    · exact decided_refuse h rfl _ _
    · exact decided_pass rfl (decided_answer _ _)
  | isConnectionSynchronized handle =>
    simp only [performAccepted, needChecks, connection, Call.need, SessionNeed.handle?,
      SessionNeed.isSynchronized, Option.all_some]
    rcases h.session with _ | session
    · exact decided_refuse h rfl _ _
    dsimp only [Option.any_some]
    split_ifs with hhandle
    · exact decided_pass (by simpa using hhandle) (decided_pass rfl (decided_answer _ _))
    · exact decided_refuse h (by simpa using hhandle) _ _
  | onSession handle call =>
    simp only [performAccepted, needChecks, conditions, synchronized, connection, Call.need,
      SessionNeed.handle?, SessionNeed.isSynchronized, Option.all_some]
    rcases h.session with _ | session
    · exact decided_refuse h rfl _ _
    dsimp only [Option.any_some, Option.bind_some]
    split_ifs with hhandle
    · refine decided_pass (by simpa using hhandle) ?_
      dsimp only
      rcases session.localUser with _ | localUser
      · exact decided_refuse h rfl _ _
      · exact decided_pass rfl (h.performOnSession_decided plugin session localUser call)
    · exact decided_refuse h (by simpa using hhandle) _ _
  | getLocalUserTransmissionMode =>
    exact decided_pass rfl (decided_pass rfl (decided_answer _ _))
  | isLocalUserMuted => exact decided_pass rfl (decided_pass rfl (decided_answer _ _))
  | isLocalUserDeafened => exact decided_pass rfl (decided_pass rfl (decided_answer _ _))
  | requestLocalUserTransmissionMode raw =>
    refine decided_pass rfl (decided_pass rfl ?_)
    simp only [performAccepted, conditions]
    rcases TransmissionMode.ofRaw? raw with _ | mode
    · exact decided_refuse h rfl _ _
    · exact decided_pass rfl (request_decided _ _)
  | requestMicrophoneActivationOverwrite activate =>
    exact decided_pass rfl (decided_pass rfl (decided_answer _ _))
  | requestLocalUserMute muted => exact decided_pass rfl (decided_pass rfl (request_decided _ _))
  | requestLocalUserDeaf deafened =>
    exact decided_pass rfl (decided_pass rfl (request_decided _ _))
  | getSetting kind key =>
    exact decided_pass rfl (decided_pass rfl (readSetting_decided plugin kind key))
  | setSetting key value =>
    exact decided_pass rfl (decided_pass rfl (setSetting_decided plugin key value))
  | log message =>
    refine decided_pass rfl (decided_pass rfl ?_)
    -- an accepted plugin has a name, so that the second look into the registry finds one
    obtain ⟨name, hname⟩ := exists_nameOf haccepts
    simp only [performAccepted, conditions, hname, Option.all_some]
    rcases h.log.write (Markup.logLine name message) with _ | log
    · rfl
    · exact decided_pass rfl (decided_answer _ _)
  | playSample path volume =>
    refine decided_pass rfl (decided_pass rfl ?_)
    simp only [performAccepted, conditions]
    rcases h.audio with _ | output
    · exact decided_refuse h rfl _ _
    refine decided_pass rfl ?_
    simp only [AudioOutput.play, Option.all_some]
    rcases output.files.isFile path with _ | _
    · exact decided_refuse h rfl _ _
    · exact decided_pass rfl (decided_answer _ _)

lemma perform_of_accepts (haccepts : h.registry.Accepts plugin) (call : Call) :
    h.perform plugin call = h.performAccepted plugin call := by
  simp only [perform, verifyPlugin, (h.registry.accepts_iff plugin).1 haccepts, if_true, ite_self]

lemma perform_of_not_accepts (hrejects : ¬ h.registry.Accepts plugin) {call : Call}
    (hopen : isOpen call = false) : h.perform plugin call = h.refuse .invalidPluginId := by
  rw [Registry.accepts_iff] at hrejects
  simp [perform, verifyPlugin, hopen, hrejects]

lemma connection_of_ne {handle : ConnectionHandle}
    (hhandle : ∀ session, h.session = some session → session.connection ≠ handle) :
    h.connection handle = .error .connectionNotFound := by
  unfold connection
  rcases hsession : h.session with _ | session
  · rfl
  · exact if_neg (hhandle session hsession)

/-- A wrong handle is answered alike by all calls that take one. -/
lemma performAccepted_of_ne {call : Call} {handle : ConnectionHandle}
    (hneed : call.need.handle? = some handle)
    (hhandle : ∀ session, h.session = some session → session.connection ≠ handle) :
    h.performAccepted plugin call = h.refuse .connectionNotFound := by
  cases call with
  | isConnectionSynchronized handle' =>
    cases hneed
    simp only [performAccepted, connection_of_ne hhandle]
  | onSession handle' call =>
    cases hneed
    simp only [performAccepted, synchronized, connection_of_ne hhandle]
  | _ => cases hneed

end Host

/-! ## Entries -/

namespace ApiTable

variable {h : Host} {thread : Thread} {plugin : PluginId} (table : ApiTable)

lemma status_of_decidedBy {outcome : Outcome} {checks : List Check}
    (hdecided : outcome.DecidedBy thread checks) :
    Status.ofResult (outcome.seen thread) =
      (firstFailing checks).elim Status.ok ErrorCode.raw := by
  unfold Outcome.DecidedBy at hdecided
  rcases hfirst : firstFailing checks with _ | code
  · rw [hfirst] at hdecided
    obtain ⟨reply, hreply⟩ := hdecided
    rw [hreply]
    rfl
  · rw [hfirst] at hdecided
    simp only at hdecided
    rw [hdecided]
    rfl

lemma conclude_status (call : Call) (service : Service) :
    (conclude ((⟨h, true⟩ : Service).call thread plugin call).1 service).status =
      Status.ofResult ((h.perform plugin call).seen thread) := by
  rcases hperform : h.perform plugin call with ⟨_ | result, host⟩
  · rw [Service.call_of_crash thread plugin call rfl hperform]
    cases thread <;> rfl
  · rw [Service.call_of_result thread plugin call rfl hperform]
    rcases result with code | reply <;> rfl

lemma isOpen_eq_false {call : TableCall} {read : Call} (hread : call.read? table = some read)
    (hentry : ∀ address, call ≠ .plain (.freeMemory address)) : Host.isOpen read = false := by
  by_contra hopen
  have hplain := (TableCall.readAs hread).eq_plain (by simpa using hopen)
  cases read with
  | freeMemory address => exact hentry address hplain
  | _ => exact hopen rfl

/-- A caller that is not accepted is told so, whatever it asks for and whatever is missing. -/
lemma enter_of_not_accepts (hrejects : ¬ h.registry.Accepts plugin) {call : TableCall}
    (hentry : ∀ address, call ≠ .plain (.freeMemory address)) (targets : Targets) :
    table.enter true ⟨h, true⟩ thread plugin call targets =
      ⟨ErrorCode.invalidPluginId.raw, none, ⟨h, true⟩⟩ := by
  have hcall : ∀ read, Host.isOpen read = false →
      (⟨h, true⟩ : Service).call thread plugin read =
        (some (.error .invalidPluginId), ⟨h, true⟩) := fun read hopen =>
    Service.call_of_result thread plugin read rfl (Host.perform_of_not_accepts hrejects hopen)
  simp only [enter, Bool.not_true, Bool.false_eq_true, if_false]
  rcases hread : call.complete? table targets with _ | read
  · simp only [hcall .verifyCaller rfl]
    rfl
  · rw [TableCall.complete?_eq] at hread
    split_ifs at hread
    simp only [hcall read (isOpen_eq_false table hread hentry)]
    rfl

/-- An accepted caller that leaves out an address is told so, whatever else is wrong. -/
lemma enter_of_lacks (haccepts : h.registry.Accepts plugin) {call : TableCall}
    {targets : Targets} (hlacks : call.lacks targets = true) :
    table.enter true ⟨h, true⟩ thread plugin call targets =
      ⟨ErrorCode.genericError.raw, none, ⟨h, true⟩⟩ := by
  have hread : call.complete? table targets = none := by
    rw [TableCall.complete?_eq, if_pos hlacks]
  have hperform : h.perform plugin .verifyCaller = h.answer .unit :=
    Host.perform_of_accepts haccepts _
  simp only [enter, hread, Bool.not_true, Bool.false_eq_true, if_false]
  rw [Service.call_of_result thread plugin .verifyCaller rfl hperform]
  rfl

/-- With nothing missing, an entry does what its call does. -/
lemma enter_status_of_accepts (haccepts : h.registry.Accepts plugin) {call : TableCall}
    {targets : Targets} {read : Call} (hread : call.complete? table targets = some read) :
    (table.enter true ⟨h, true⟩ thread plugin call targets).status =
      Status.ofResult ((h.performAccepted plugin read).seen thread) := by
  simp only [enter, hread, Bool.not_true, Bool.false_eq_true, if_false]
  rw [conclude_status, Host.perform_of_accepts haccepts]

/-- With nothing missing, an entry ends with the result of its call. -/
lemma enter_of_result {call : TableCall} {targets : Targets} {read : Call}
    (hread : call.complete? table targets = some read) {result : CallResult Reply} {host : Host}
    (hperform : h.perform plugin read = ⟨some result, host⟩) :
    table.enter true ⟨h, true⟩ thread plugin call targets =
      conclude (some result) ⟨host, true⟩ := by
  simp only [enter, hread, Bool.not_true, Bool.false_eq_true, if_false]
  rw [Service.call_of_result thread plugin read rfl hperform]
  rfl

lemma enter_of_ne (haccepts : h.registry.Accepts plugin) {call : TableCall} {targets : Targets}
    (hlacks : call.lacks targets = false) {handle : ConnectionHandle}
    (hneed : call.need.handle? = some handle)
    (hhandle : ∀ session, h.session = some session → session.connection ≠ handle) :
    table.enter true ⟨h, true⟩ thread plugin call targets =
      ⟨ErrorCode.connectionNotFound.raw, none, ⟨h, true⟩⟩ := by
  obtain ⟨read, hread, hcomplete⟩ := TableCall.exists_read? hlacks table
  have hperform : h.perform plugin read = h.refuse .connectionNotFound := by
    rw [Host.perform_of_accepts haccepts]
    refine Host.performAccepted_of_ne ?_ hhandle
    rw [(TableCall.readAs hread).need_eq, hneed]
  exact enter_of_result table hcomplete hperform

/-- **The first failing check decides.**  The status of an entry is the code of the first check
that its call does not pass: first those of every entry, in their order, and then those of its
own; it is the status of success if the call passes all.  A caller that is not accepted is told so,
whatever the session, the settings and the arguments are; and where nothing is missing, a wrong
handle is answered alike whatever the session holds.  In both cases nothing is done. -/
theorem enter_status (h : Host) (thread : Thread) (plugin : PluginId) (call : TableCall)
    (targets : Targets) (hentry : ∀ address, call ≠ .plain (.freeMemory address)) :
    let entered := table.enter true ⟨h, true⟩ thread plugin call targets
    entered.status = (firstFailing (h.preliminaryChecks plugin call targets ++
      h.ownChecks table thread plugin call)).elim Status.ok ErrorCode.raw ∧
    (¬ h.registry.Accepts plugin →
      entered = ⟨ErrorCode.invalidPluginId.raw, none, ⟨h, true⟩⟩) ∧
    (∀ handle, h.registry.Accepts plugin → call.lacks targets = false →
      call.need.handle? = some handle →
      (∀ session, h.session = some session → session.connection ≠ handle) →
      entered = ⟨ErrorCode.connectionNotFound.raw, none, ⟨h, true⟩⟩) := by
  intro entered
  refine ⟨?_, fun hrejects => enter_of_not_accepts table hrejects hentry targets,
    fun handle haccepts hlacks hneed hhandle => enter_of_ne table haccepts hlacks hneed hhandle⟩
  by_cases haccepts : h.registry.Accepts plugin
  · rcases hlacks : call.lacks targets with _ | _
    · obtain ⟨read, hread, hcomplete⟩ := TableCall.exists_read? hlacks table
      have hdecided : (h.performAccepted plugin read).DecidedBy thread
          (h.needChecks read.need ++ h.conditions thread plugin read) :=
        Host.performAccepted_decided read haccepts (isOpen_eq_false table hread hentry)
      rw [(TableCall.readAs hread).need_eq] at hdecided
      rw [enter_status_of_accepts table haccepts hcomplete, status_of_decidedBy hdecided]
      -- the two checks in front are passed
      simp [Host.preliminaryChecks, Host.ownChecks, haccepts, hlacks, hread]
    · change (table.enter true ⟨h, true⟩ thread plugin call targets).status = _
      rw [enter_of_lacks table haccepts hlacks]
      simp [Host.preliminaryChecks, haccepts, hlacks]
  · change (table.enter true ⟨h, true⟩ thread plugin call targets).status = _
    rw [enter_of_not_accepts table haccepts hentry]
    simp [Host.preliminaryChecks, haccepts]

/-- A caller that is not accepted, without a place for the name and with a wrong handle. -/
theorem enter_status_stranger :
    (∀ address, TableCall.plain (.onSession 7 (.getUserName 42)) ≠ .plain (.freeMemory address)) ∧
    firstFailing (Host.lonely.preliminaryChecks 5 (.plain (.onSession 7 (.getUserName 42)))
      ⟨false, false⟩ ++ Host.lonely.ownChecks .v1_0 .plugin 5
        (.plain (.onSession 7 (.getUserName 42)))) = some .invalidPluginId ∧
    (ApiTable.v1_0.enter true ⟨.lonely, true⟩ .plugin 5 (.plain (.onSession 7 (.getUserName 42)))
      ⟨false, false⟩).status = ErrorCode.invalidPluginId.raw :=
  ⟨nofun, rfl, (enter_status .v1_0 .lonely .plugin 5 (.plain (.onSession 7 (.getUserName 42)))
    ⟨false, false⟩ nofun).1⟩

end ApiTable
end PluginHost
