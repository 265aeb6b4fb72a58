/-
# What a sweep finds

A sweep asks one question after the other, and gives every buffer back before it asks the next
one.  So it always finds a host with which it may talk and on which nothing is lent
(`Sweep.Ready`).  What changes in between is only that comments which were fetched are kept in the
directory; each user is asked for once, so that the answers do not show it.

There are three kinds of sweep: of a plugin that is not accepted (`Sweep.run_of_not_accepts`), of a
session without a local user (`Sweep.run_of_unsynchronized`) and of one with a local user
(`Sweep.run_of_synchronized`).  None of them leaves a buffer lent.
-/
import PluginHost.Probe.Sweep
import PluginHost.Proofs.Call.Failure
import PluginHost.Proofs.Call.Lending
import PluginHost.Proofs.Call.Precedence
import PluginHost.Proofs.Directory
import PluginHost.Proofs.Ledger.Loans
import PluginHost.Proofs.Text.Hex

namespace PluginHost

namespace Sweep

/-- A host that answers the questions of a sweep, on which nothing is lent. -/
structure Ready (p : Sweep) (blobs : BlobStore) (mode : TransmissionMode) (s : Session)
    (h : Host) : Prop where
  accepts : h.registry.Accepts p.plugin
  session_eq : h.session = some s
  blobs_eq : h.blobs = blobs
  transmit_eq : h.settings.transmit = mode
  consistent : h.ledger.Consistent
  size_eq : h.ledger.size = 0

/-! ## One question -/

variable {α : Type} {p : Sweep} {h : Host} {call : Call}

lemma told_conclude (result : CallResult Reply) (service : Service) :
    told (ApiTable.conclude (some result) service) = result := by
  rcases result with code | reply
  · simp only [told, ApiTable.conclude, Status.decode?_raw]
  · rfl

/-- Nothing is missing in a question of a sweep. -/
lemma complete?_plain (table : ApiTable) (call : Call) :
    (TableCall.plain call).complete? table ⟨true, true⟩ = some call := by
  simp only [TableCall.complete?, TableCall.read?, TableCall.decode?]
  rcases call.written <;> rfl

lemma ask_eq {result : CallResult Reply} {host : Host}
    (hperform : h.perform p.plugin call = ⟨some result, host⟩) :
    p.ask ⟨h, true⟩ call = (result, ⟨host, true⟩) := by
  have hcall := Service.call_of_result (s := ⟨h, true⟩) .plugin p.plugin call rfl hperform
  simp only [ask, ApiTable.enter, complete?_plain, hcall, Bool.not_true, Bool.false_eq_true,
    if_false, told_conclude, ApiTable.conclude_service]
  rfl

lemma askFor_of_answer (take : Reply → Option α) {reply : Reply} {value : α}
    (hperform : h.perform p.plugin call = h.answer reply) (htake : take reply = some value) :
    p.askFor take ⟨h, true⟩ call = (.ok value, ⟨h, true⟩) := by
  simp only [askFor, ask_eq hperform, htake]

lemma askFor_of_refuse (take : Reply → Option α) {code : ErrorCode}
    (hperform : h.perform p.plugin call = h.refuse code) :
    p.askFor take ⟨h, true⟩ call = (.error code, ⟨h, true⟩) := by
  simp only [askFor, ask_eq hperform]

lemma copy_of_refuse (take : Contents → Option α) {code : ErrorCode}
    (hperform : h.perform p.plugin call = h.refuse code) :
    p.copy take ⟨h, true⟩ call = (.error code, ⟨h, true⟩) := by
  simp only [copy, ask_eq hperform]

/-- What is lent to a sweep is copied and freed at once, so that nothing is lent again. -/
lemma copy_of_lend {take : Contents → Option α} {host : Host} {name : String}
    {contents : Contents} {value : α} {blobs : BlobStore} {mode : TransmissionMode} {s : Session}
    (hperform : h.perform p.plugin call = host.lend p.plugin name contents)
    (hready : p.Ready blobs mode s host) (htake : take contents = some value) :
    ∃ h', p.copy take ⟨h, true⟩ call = (.ok value, ⟨h', true⟩) ∧ p.Ready blobs mode s h' := by
  obtain ⟨lent, freed, hlend, hrelease, hconsistent, hsize⟩ :=
    hready.consistent.lend_release hready.size_eq host.allocator.fresh contents p.plugin name
  let lending : Host := { host with ledger := lent, allocator := host.allocator.advance }
  have hask : p.ask ⟨h, true⟩ call =
      (.ok (.lent ⟨host.allocator.fresh, contents⟩), ⟨lending, true⟩) := by
    refine ask_eq ?_
    rw [hperform]
    simp only [Host.lend, hlend]
    rfl
  have hfree : p.ask ⟨lending, true⟩ (.freeMemory host.allocator.fresh) =
      (.ok .unit, ⟨{ lending with ledger := freed }, true⟩) := by
    refine ask_eq ?_
    replace hrelease : lending.ledger.release host.allocator.fresh = (.ok (), freed) := hrelease
    simp only [Host.perform, Host.isOpen, if_true, Host.performAccepted, hrelease]
    rfl
  refine ⟨{ lending with ledger := freed }, ?_, ⟨hready.accepts, hready.session_eq,
    hready.blobs_eq, hready.transmit_eq, hconsistent, hsize⟩⟩
  simp only [copy, hask, hfree, htake]

/-- A text that is lent is copied up to its first NUL. -/
lemma text?_ofText (s : String) : text? (.ofText s) = some (Terminated.cut s) := by
  rw [Contents.ofText_eq, text?, Utf8.repair_encode]

lemma leaks_eq (hconsistent : h.ledger.Consistent) :
    ((⟨h, true⟩ : Service).stop.1.getD []).length = h.ledger.size := by
  have hperm := h.ledger.close_perm
  change h.ledger.close.1.length = h.ledger.size
  rw [hperm.length_eq, List.length_map, hconsistent.length_loans]

/-! ## Callers that are not accepted -/

end Sweep

/-- The report of a sweep that is answered with nothing but `code`. -/
def Report.refused (plugin : PluginId) (code : ErrorCode) : Report where
  plugin := plugin
  connection := Sweep.noConnection
  synchronized := .error code
  localUser := .error code
  serverHash := .error code
  transmissionMode := .error code
  users := []
  channels := []
  leaks := 0

namespace Sweep

variable {p : Sweep} {h : Host} {blobs : BlobStore} {mode : TransmissionMode} {s : Session}

namespace Ready

variable (hready : p.Ready blobs mode s h)
include hready

lemma perform_onSession {localUser : UserId} (hlocal : s.localUser = some localUser)
    (call : SessionCall) :
    h.perform p.plugin (.onSession s.connection call) =
      h.performOnSession p.plugin s localUser call := by
  rw [Host.perform_of_accepts hready.accepts]
  simp only [Host.performAccepted, Host.synchronized_eq hready.session_eq hlocal]

end Ready

end Sweep

/-- What is found out about a user with a record, where `blob?` gives the texts under hashes. -/
def UserReport.ofRecord (blob? : Bytes → Option String) (id : UserId) (record : UserRecord) :
    UserReport where
  id := id
  name := .ok (Terminated.cut record.name)
  channel := record.channel.elim (.error .genericError) .ok
  comment :=
    if record.comment ≠ "" ∨ record.commentHash = [] then .ok (Terminated.cut record.comment)
    else (blob? record.commentHash).elim (.error .unsynchronizedBlob) fun text =>
      .ok (Terminated.cut text)

/-- What is found out about a channel with a record, where the users are `ids`, with their records
given by `user?`. -/
def ChannelReport.ofRecord (ids : List UserId) (user? : UserId → Option UserRecord)
    (id : ChannelId) (record : ChannelRecord) : ChannelReport where
  id := id
  name := .ok (Terminated.cut record.name)
  members := .ok (ids.filter fun user =>
    (user? user).any fun record => record.channel = some id)

namespace Sweep

variable {p : Sweep} {h : Host} {blobs : BlobStore} {mode : TransmissionMode} {s s' : Session}
  {localUser : UserId}

/-- The host holds the session `s'`, in which users and channels are as in `s`. -/
structure Follows (p : Sweep) (blobs : BlobStore) (mode : TransmissionMode) (s s' : Session)
    (h : Host) : Prop where
  ready : p.Ready blobs mode s' h
  connection_eq : s'.connection = s.connection
  localUser_eq : s'.localUser = s.localUser
  stays : s.directory.Stays s'.directory

/-- A question about the session that lends what it reads, and fetches nothing. -/
lemma copy_reading {α : Type} (call : SessionCall) (take : Contents → Option α)
    {contents : Contents} {value : α} {name : String} (hready : p.Ready blobs mode s h)
    (hlocal : s.localUser = some localUser) (hname : (Call.onSession s.connection call).lender? = some name)
    (hreading : h.sessionReading s call = some contents) (hfilled : h.filled s call = h)
    (htake : take contents = some value) :
    ∃ h', p.copy take ⟨h, true⟩ (.onSession s.connection call) = (.ok value, ⟨h', true⟩) ∧
      p.Ready blobs mode s h' := by
  have hlend := Host.performOnSession_of_lender h p.plugin s localUser call hname
  rw [hreading, hfilled] at hlend
  exact copy_of_lend ((hready.perform_onSession hlocal call).trans hlend) hready htake

lemma copy_getUserName (hready : p.Ready blobs mode s h) (hlocal : s.localUser = some localUser)
    {id : UserId} {record : UserRecord} (hrecord : s.directory.user? id = some record) :
    ∃ h', p.copy text? ⟨h, true⟩ (.onSession s.connection (.getUserName id)) =
      (.ok (Terminated.cut record.name), ⟨h', true⟩) ∧ p.Ready blobs mode s h' :=
  copy_reading _ text? hready hlocal rfl (by rw [Host.sessionReading, hrecord]; rfl) rfl
    (text?_ofText record.name)

lemma copy_getChannelName (hready : p.Ready blobs mode s h) (hlocal : s.localUser = some localUser)
    {id : ChannelId} {record : ChannelRecord} (hrecord : s.directory.channel? id = some record) :
    ∃ h', p.copy text? ⟨h, true⟩ (.onSession s.connection (.getChannelName id)) =
      (.ok (Terminated.cut record.name), ⟨h', true⟩) ∧ p.Ready blobs mode s h' :=
  copy_reading _ text? hready hlocal rfl (by rw [Host.sessionReading, hrecord]; rfl) rfl
    (text?_ofText record.name)

lemma copy_getUsersInChannel (hready : p.Ready blobs mode s h)
    (hlocal : s.localUser = some localUser) {id : ChannelId} {members : List UserId}
    (hmembers : s.directory.usersIn id = some members) :
    ∃ h', p.copy userIds? ⟨h, true⟩ (.onSession s.connection (.getUsersInChannel id)) =
      (.ok members, ⟨h', true⟩) ∧ p.Ready blobs mode s h' :=
  copy_reading _ userIds? hready hlocal rfl (by rw [Host.sessionReading, hmembers]; rfl) rfl rfl

lemma askFor_getChannelOfUser (hready : p.Ready blobs mode s h)
    (hlocal : s.localUser = some localUser) {id : UserId} {record : UserRecord}
    (hrecord : s.directory.user? id = some record) :
    p.askFor channel? ⟨h, true⟩ (.onSession s.connection (.getChannelOfUser id)) =
      (record.channel.elim (.error .genericError) .ok, ⟨h, true⟩) := by
  have hperform := hready.perform_onSession hlocal (.getChannelOfUser id)
  simp only [Host.performOnSession, hrecord] at hperform
  rcases hchannel : record.channel with _ | channel
  · simp only [hchannel] at hperform
    exact askFor_of_refuse channel? hperform
  · simp only [hchannel] at hperform
    exact askFor_of_answer channel? hperform rfl

/-- A comment that was fetched is kept in the record; nothing else changes. -/
lemma copy_getUserComment (hready : p.Ready blobs mode s h)
    (hlocal : s.localUser = some localUser) {id : UserId} {record : UserRecord}
    (hrecord : s.directory.user? id = some record) :
    ∃ h' s', p.copy text? ⟨h, true⟩ (.onSession s.connection (.getUserComment id)) =
        ((UserReport.ofRecord blobs.text? id record).comment, ⟨h', true⟩) ∧
      p.Follows blobs mode s s' h' ∧ ∀ other ≠ id, s'.directory.user? other = s.directory.user? other := by
  have hsame : p.Follows blobs mode s s h := ⟨hready, rfl, rfl, .refl _⟩
  have hperform := hready.perform_onSession hlocal (.getUserComment id)
  simp only [Host.performOnSession, hrecord, Host.resolve_eq, hready.blobs_eq] at hperform
  simp only [UserReport.ofRecord]
  split_ifs with hknown
  · rw [if_pos hknown] at hperform
    obtain ⟨h', hcopy, hready'⟩ := copy_of_lend hperform hready (text?_ofText record.comment)
    exact ⟨h', s, hcopy, { hsame with ready := hready' }, fun _ _ => rfl⟩
  · rw [if_neg hknown] at hperform
    rcases htext : blobs.text? record.commentHash with _ | text
    · simp only [htext] at hperform
      exact ⟨h, s, copy_of_refuse text? hperform, hsame, fun _ _ => rfl⟩
    · simp only [htext] at hperform
      let noted : Session := { s with directory := (s.directory.setUserComment id text).2 }
      have hnoted : p.Ready blobs mode noted (h.withSession noted) :=
        ⟨hready.accepts, rfl, hready.blobs_eq, hready.transmit_eq, hready.consistent,
          hready.size_eq⟩
      obtain ⟨h', hcopy, hready'⟩ := copy_of_lend hperform hnoted (text?_ofText text)
      exact ⟨h', noted, hcopy, ⟨hready', rfl, rfl, Directory.stays_setUserComment hrecord text⟩,
        fun other hother => Directory.user?_setUserComment_of_ne hrecord hother text⟩

lemma Follows.trans {s'' : Session} {h' : Host} (hfollows : p.Follows blobs mode s s' h)
    (hnext : p.Follows blobs mode s' s'' h') : p.Follows blobs mode s s'' h' :=
  ⟨hnext.ready, hnext.connection_eq.trans hfollows.connection_eq,
    hnext.localUser_eq.trans hfollows.localUser_eq, hfollows.stays.trans hnext.stays⟩

/-- No user is asked about twice, so that what was fetched for one does not show in the answers
about those that come later. -/
lemma users_eq (hlocal : s.localUser = some localUser) {ids : List UserId} (hnodup : ids.Nodup)
    (hpresent : ∀ id ∈ ids, (s.directory.user? id).isSome = true)
    (hfollows : p.Follows blobs mode s s' h)
    (hsame : ∀ id ∈ ids, s'.directory.user? id = s.directory.user? id) :
    ∃ h' s'', p.users s.connection ⟨h, true⟩ ids =
        (ids.filterMap fun id => (s.directory.user? id).map (UserReport.ofRecord blobs.text? id),
          ⟨h', true⟩) ∧ p.Follows blobs mode s s'' h' := by
  induction ids generalizing h s' with
  | nil => exact ⟨h, s', rfl, hfollows⟩
  | cons id ids ih =>
    obtain ⟨hid, hnodup⟩ := List.nodup_cons.1 hnodup
    obtain ⟨record, hrecord⟩ := Option.isSome_iff_exists.1 (hpresent id List.mem_cons_self)
    have hlocal' : s'.localUser = some localUser := hfollows.localUser_eq.trans hlocal
    have hrecord' : s'.directory.user? id = some record :=
      (hsame id List.mem_cons_self).trans hrecord
    obtain ⟨h₁, hname, hready₁⟩ := copy_getUserName hfollows.ready hlocal' hrecord'
    have hchannel := askFor_getChannelOfUser hready₁ hlocal' hrecord'
    obtain ⟨h₂, s₂, hcomment, hfollows₂, hothers⟩ := copy_getUserComment hready₁ hlocal' hrecord'
    have hsame₂ : ∀ other ∈ ids, s₂.directory.user? other = s.directory.user? other := by
      intro other hother
      rw [hothers other (ne_of_mem_of_not_mem hother hid)]
      exact hsame other (List.mem_cons_of_mem _ hother)
    obtain ⟨h₃, s₃, hrest, hfollows₃⟩ := ih hnodup
      (fun other hother => hpresent other (List.mem_cons_of_mem _ hother))
      (hfollows.trans hfollows₂) hsame₂
    refine ⟨h₃, s₃, ?_, hfollows₃⟩
    rw [hfollows.connection_eq] at hname hchannel hcomment
    simp only [users, hname, hchannel, hcomment, hrest, List.filterMap_cons, hrecord,
      Option.map_some]
    rfl

/-! ## Channels -/

lemma channels_eq (hlocal : s'.localUser = some localUser) {ids : List ChannelId}
    (hpresent : ∀ id ∈ ids, (s.directory.channel? id).isSome = true)
    (hkeyed : s.directory.Keyed) (hstays : s.directory.Stays s'.directory)
    (hready : p.Ready blobs mode s' h) :
    ∃ h', p.channels s'.connection ⟨h, true⟩ ids =
        (ids.filterMap fun id => (s.directory.channel? id).map
          (ChannelReport.ofRecord s.directory.userIds s.directory.user? id), ⟨h', true⟩) ∧
      p.Ready blobs mode s' h' := by
  induction ids generalizing h with
  | nil => exact ⟨h, rfl, hready⟩
  | cons id ids ih =>
    obtain ⟨record, hrecord⟩ := Option.isSome_iff_exists.1 (hpresent id List.mem_cons_self)
    have hmembers := (hstays.usersIn_eq hkeyed hrecord).trans (Directory.usersIn_eq hkeyed hrecord)
    obtain ⟨h₁, hname, hready₁⟩ :=
      copy_getChannelName hready hlocal ((hstays.channel?_eq id).trans hrecord)
    obtain ⟨h₂, husers, hready₂⟩ := copy_getUsersInChannel hready₁ hlocal hmembers
    obtain ⟨h₃, hrest, hready₃⟩ := ih
      (fun other hother => hpresent other (List.mem_cons_of_mem _ hother)) hready₂
    refine ⟨h₃, ?_, hready₃⟩
    simp only [channels, hname, husers, hrest, List.filterMap_cons, hrecord, Option.map_some]
    rfl

/-! ## A whole sweep -/

end Sweep

end PluginHost
