/-
# Reading twice

Many calls only read: they give a value, or lend what they read.  A plugin that asks again has the
same answer.  For most of these calls there is nothing to it, since they leave alone whatever they
look at.

The comment of a user and the description of a channel are different.  When a record has no more
than the hash of a text, the first call fetches the text and notes it in the record, so that the
second call finds a text and goes another way.  It finds the same text.  What was fetched is noted
as a whole, and is not empty whatever octets it was made of, so the store is not asked again; the
store may have forgotten the text by then, or may know another one under the hash.

A `Finding` is what a reading call has found out, before anything is lent.  Hosts that agree in
what reading calls look at (`Host.Agrees`) have the same findings.
-/
import PluginHost.Proofs.Call.Revision

namespace PluginHost

/-- Whether a call about a session only reads. -/
def SessionCall.isReading : SessionCall → Bool
  | getLocalUserId | getUserName _ | getChannelName _ | getAllUsers | getAllChannels
  | getChannelOfUser _ | getUsersInChannel _ | isUserLocallyMuted _ | getUserHash _
  | getServerHash | getUserComment _ | getChannelDescription _ | findUserByName _
  | findChannelByName _ => true
  | requestUserMove .. | requestLocalMute .. | requestSetLocalUserComment _ | sendData .. => false

/-- Whether a call only reads. -/
def Call.isReading : Call → Bool
  | onSession _ call => call.isReading
  | getActiveServerConnection | isConnectionSynchronized _ | getLocalUserTransmissionMode
  | isLocalUserMuted | isLocalUserDeafened | getSetting .. => true
  | _ => false

/-- What a reading call has found out. -/
inductive Finding where
  /-- That it is to be refused. -/
  | refusal (code : ErrorCode)
  /-- A value, which is given as it is. -/
  | value (reply : Reply) (hvalue : reply.buffer? = none)
  /-- Contents, which are lent under the name of the call. -/
  | contents (name : String) (contents : Contents)

namespace Host

/-- The end of a call that has found out something. -/
def tell (h : Host) (plugin : PluginId) : Finding → Outcome
  | .refusal code => h.refuse code
  | .value reply _ => h.answer reply
  | .contents name contents => h.lend plugin name contents

/-- Two hosts are the same in what reading calls look at, apart from the texts known by hash. -/
structure Agrees (h h' : Host) : Prop where
  registry_eq : h'.registry = h.registry
  settings_eq : h'.settings = h.settings
  session_eq : h'.session = h.session

variable {h h' : Host} {plugin : PluginId} {call : Call}

namespace Agrees

lemma refl (h : Host) : h.Agrees h := ⟨rfl, rfl, rfl⟩

/-- Neither what is lent nor what the store holds makes a difference. -/
lemma of_unlent (hhost : h'.unlent = h.unlent) (blobs : BlobStore) :
    h.Agrees { h' with blobs := blobs } := by
  have hregistry : h'.registry = h.registry := part_eq Host.registry (fun _ => rfl) hhost
  have hsettings : h'.settings = h.settings := part_eq Host.settings (fun _ => rfl) hhost
  have hsession : h'.session = h.session := part_eq Host.session (fun _ => rfl) hhost
  exact ⟨hregistry, hsettings, hsession⟩

lemma connection_eq (hagrees : h.Agrees h') (connection : ConnectionHandle) :
    h'.connection connection = h.connection connection := by
  rw [Host.connection, Host.connection, hagrees.session_eq]

lemma synchronized_eq (hagrees : h.Agrees h') (connection : ConnectionHandle) :
    h'.synchronized connection = h.synchronized connection := by
  rw [synchronized, synchronized, hagrees.connection_eq]

end Agrees

/-- A call has found out something, and does so again: at first with the host `h₁`, in which a text
may have been noted, and then with every host that agrees with it. -/
structure Settles (h : Host) (plugin : PluginId) (call : Call) (h₁ : Host) (finding : Finding) :
    Prop where
  ledger_eq : h₁.ledger = h.ledger
  allocator_eq : h₁.allocator = h.allocator
  perform_eq : h.perform plugin call = h₁.tell plugin finding
  again : ∀ h', h₁.Agrees h' → h'.perform plugin call = h'.tell plugin finding

/-! ## Calls about a session -/

section OnSession

variable {connection : ConnectionHandle} {s : Session} {localUser : UserId}

lemma connection_of_synchronized (hsynchronized : h.synchronized connection = .ok (s, localUser)) :
    s.connection = connection := by
  have hsession := session_of_synchronized hsynchronized
  simp only [synchronized, Host.connection, hsession] at hsynchronized
  by_contra hne
  rw [if_neg hne] at hsynchronized
  cases hsynchronized

/-- A session stays synchronized when its directory changes. -/
lemma synchronized_of_directory (hsynchronized : h.synchronized connection = .ok (s, localUser))
    {directory : Directory} (hsession : h'.session = some { s with directory := directory }) :
    h'.synchronized connection = .ok ({ s with directory := directory }, localUser) := by
  have hlocal : s.localUser = some localUser := localUser_of_synchronized hsynchronized
  rw [← connection_of_synchronized hsynchronized]
  exact synchronized_eq hsession hlocal

/-- Apart from comments and descriptions, all that matters is the session. -/
lemma exists_finding_onSession (plugin : PluginId) (s : Session) (localUser : UserId)
    {call : SessionCall} (hreads : call.isReading = true)
    (hplain : ∀ subject, call ≠ Directory.Subject.call subject) :
    ∃ finding, ∀ h : Host, h.performOnSession plugin s localUser call = h.tell plugin finding := by
  cases call with
  | getLocalUserId => exact ⟨.value (.user localUser) rfl, fun h => rfl⟩
  | getUserName user =>
    simp only [performOnSession]
    cases s.directory.user? user with
    | none => exact ⟨.refusal .userNotFound, fun h => rfl⟩
    | some record => exact ⟨.contents _ _, fun h => rfl⟩
  | getChannelName channel =>
    simp only [performOnSession]
    cases s.directory.channel? channel with
    | none => exact ⟨.refusal .channelNotFound, fun h => rfl⟩
    | some record => exact ⟨.contents _ _, fun h => rfl⟩
  | getAllUsers => exact ⟨.contents _ _, fun h => rfl⟩
  | getAllChannels => exact ⟨.contents _ _, fun h => rfl⟩
  | getChannelOfUser user =>
    simp only [performOnSession]
    cases s.directory.user? user with
    | none => exact ⟨.refusal .userNotFound, fun h => rfl⟩
    | some record =>
      dsimp only
      cases record.channel with
      | none => exact ⟨.refusal .genericError, fun h => rfl⟩
      | some channel => exact ⟨.value (.channel channel) rfl, fun h => rfl⟩
  | getUsersInChannel channel =>
    simp only [performOnSession]
    cases s.directory.usersIn channel with
    | none => exact ⟨.refusal .channelNotFound, fun h => rfl⟩
    | some users => exact ⟨.contents _ _, fun h => rfl⟩
  | isUserLocallyMuted user =>
    simp only [performOnSession]
    cases s.directory.user? user with
    | none => exact ⟨.refusal .userNotFound, fun h => rfl⟩
    | some record => exact ⟨.value (.flag record.localMute) rfl, fun h => rfl⟩
  | getUserHash user =>
    simp only [performOnSession]
    cases s.directory.user? user with
    | none => exact ⟨.refusal .userNotFound, fun h => rfl⟩
    | some record => exact ⟨.contents _ _, fun h => rfl⟩
  | getServerHash => exact ⟨.contents _ _, fun h => rfl⟩
  | getUserComment user => exact absurd rfl (hplain (.user user))
  | getChannelDescription channel => exact absurd rfl (hplain (.channel channel))
  | findUserByName name =>
    simp only [performOnSession]
    cases s.directory.findUser name with
    | none => exact ⟨.refusal .userNotFound, fun h => rfl⟩
    | some user => exact ⟨.value (.user user) rfl, fun h => rfl⟩
  | findChannelByName name =>
    simp only [performOnSession]
    cases s.directory.findChannel name with
    | none => exact ⟨.refusal .channelNotFound, fun h => rfl⟩
    | some channel => exact ⟨.value (.channel channel) rfl, fun h => rfl⟩
  | _ => cases hreads

/-- Where the record has a text or no hash, the store is not asked. -/
lemma performOnSession_call_of_known {subject : Directory.Subject} {entry : Directory.Entry}
    (hentry : s.directory.record? subject = some entry) (hknown : entry.text ≠ "" ∨ entry.hash = [])
    (plugin : PluginId) (localUser : UserId) (h : Host) :
    h.performOnSession plugin s localUser subject.call =
      h.lend plugin subject.call.name (.ofText entry.text) := by
  rw [Inquiry.performOnSession_call, hentry]
  dsimp only
  rw [resolve_eq, if_pos hknown]

/-- A comment or a description that is given is in the record afterwards, and then the store is not
asked. -/
lemma performOnSession_call_settled (hsession : h.session = some s) {subject : Directory.Subject}
    {reply : Reply}
    (hok : (h.performOnSession plugin s localUser subject.call).result = some (.ok reply)) :
    ∃ (h₁ : Host) (directory : Directory) (text : String),
      h₁.ledger = h.ledger ∧ h₁.allocator = h.allocator ∧ h₁.registry = h.registry ∧
      h₁.session = some { s with directory := directory } ∧
      h.performOnSession plugin s localUser subject.call =
        h₁.lend plugin subject.call.name (.ofText text) ∧
      ∀ h' : Host, h'.performOnSession plugin { s with directory := directory } localUser
        subject.call = h'.lend plugin subject.call.name (.ofText text) := by
  have hcall := Inquiry.performOnSession_call h plugin s localUser subject
  cases hentry : s.directory.record? subject with
  | none =>
    rw [hcall, hentry] at hok
    cases hok
  | some entry =>
    by_cases hknown : entry.text ≠ "" ∨ entry.hash = []
    · have hperform := performOnSession_call_of_known hentry hknown plugin localUser
      exact ⟨h, s.directory, entry.text, rfl, rfl, rfl, hsession, hperform h, hperform⟩
    rw [hentry] at hcall
    dsimp only at hcall
    rw [resolve_eq, if_neg hknown] at hcall
    cases htext : h.blobs.text? entry.hash with
    | none =>
      rw [hcall, htext] at hok
      cases hok
    | some text =>
      rw [htext] at hcall
      have hfetched : h.blobs.fetched? entry.text entry.hash = some text := by
        rw [BlobStore.fetched?, if_neg hknown, htext]
      -- what was fetched is not empty, so it is found in the record the next time
      have hfilled : text ≠ "" := (BlobStore.supplies_of_fetched? hfetched).filled
      have hnoted : (s.directory.annotate text subject).record? subject =
          some (entry.withText text) := by
        rw [Directory.record?_annotate, if_pos rfl, hentry, Option.map_some]
      have hknown' : (entry.withText text).text ≠ "" ∨ (entry.withText text).hash = [] := by
        rw [Directory.Entry.text_withText]
        exact .inl hfilled
      have hagain := performOnSession_call_of_known
        (s := { s with directory := s.directory.annotate text subject }) hnoted hknown' plugin
        localUser
      rw [Directory.Entry.text_withText] at hagain
      exact ⟨h.withDirectory s (s.directory.annotate text subject),
        s.directory.annotate text subject, text, rfl, rfl, rfl, rfl, hcall, hagain⟩

end OnSession

/-! ## All calls -/

/-- Whoever agrees with the host has the same finding, apart from comments and descriptions. -/
lemma exists_finding (h : Host) (plugin : PluginId) (hreads : call.isReading = true)
    (hplain : ∀ connection subject,
      call ≠ .onSession connection (Directory.Subject.call subject)) :
    ∃ finding, ∀ h', h.Agrees h' → h'.performAccepted plugin call = h'.tell plugin finding := by
  cases call with
  | getActiveServerConnection =>
    cases hsession : h.session with
    | none =>
      refine ⟨.refusal .noActiveConnection, fun h' hagrees => ?_⟩
      simp only [performAccepted, hagrees.session_eq, hsession, tell]
    | some s =>
      refine ⟨.value (.connection s.connection) rfl, fun h' hagrees => ?_⟩
      simp only [performAccepted, hagrees.session_eq, hsession, tell]
  | isConnectionSynchronized connection =>
    cases hconnection : h.connection connection with
    | error code =>
      refine ⟨.refusal code, fun h' hagrees => ?_⟩
      simp only [performAccepted, hagrees.connection_eq, hconnection, tell]
    | ok s =>
      refine ⟨.value (.flag s.isSynchronized) rfl, fun h' hagrees => ?_⟩
      simp only [performAccepted, hagrees.connection_eq, hconnection, tell]
  | onSession connection call =>
    cases hsynchronized : h.synchronized connection with
    | error code =>
      refine ⟨.refusal code, fun h' hagrees => ?_⟩
      simp only [performAccepted, hagrees.synchronized_eq, hsynchronized, tell]
    | ok found =>
      obtain ⟨s, localUser⟩ := found
      obtain ⟨finding, hfinding⟩ := exists_finding_onSession plugin s localUser hreads
        fun subject hcall => hplain connection subject (congrArg _ hcall)
      refine ⟨finding, fun h' hagrees => ?_⟩
      simp only [performAccepted, hagrees.synchronized_eq, hsynchronized, hfinding]
  | getLocalUserTransmissionMode =>
    refine ⟨.value (.mode h.settings.transmit) rfl, fun h' hagrees => ?_⟩
    simp only [performAccepted, hagrees.settings_eq, tell]
  | isLocalUserMuted =>
    refine ⟨.value (.flag h.settings.mute) rfl, fun h' hagrees => ?_⟩
    simp only [performAccepted, hagrees.settings_eq, tell]
  | isLocalUserDeafened =>
    refine ⟨.value (.flag h.settings.deaf) rfl, fun h' hagrees => ?_⟩
    simp only [performAccepted, hagrees.settings_eq, tell]
  | getSetting kind key =>
    have hread : ∀ h', h.Agrees h' → h'.settings.get key = h.settings.get key := by
      intro h' hagrees
      rw [hagrees.settings_eq]
    simp only [performAccepted, readSetting]
    cases hvalue : h.settings.get key with
    | none =>
      refine ⟨.refusal .unknownSettingsKey, fun h' hagrees => ?_⟩
      rw [hread h' hagrees, hvalue]
      rfl
    | some value =>
      -- a value that is not of the type asked for is refused
      cases kind <;> cases value
      case bool.bool flag =>
        exact ⟨.value (.flag flag) rfl, fun h' hagrees => by rw [hread h' hagrees, hvalue]; rfl⟩
      case int.int n =>
        exact ⟨.value (.int n) rfl, fun h' hagrees => by rw [hread h' hagrees, hvalue]; rfl⟩
      case double.double x =>
        exact ⟨.value (.double x) rfl, fun h' hagrees => by rw [hread h' hagrees, hvalue]; rfl⟩
      case string.string text =>
        exact ⟨.contents _ _, fun h' hagrees => by rw [hread h' hagrees, hvalue]; rfl⟩
      all_goals
        exact ⟨.refusal .wrongSettingsType, fun h' hagrees => by rw [hread h' hagrees, hvalue]; rfl⟩
  | _ => cases hreads

/-- A reading call that succeeds has found out something that is found out again. -/
lemma exists_settles (hreads : call.isReading = true) {reply : Reply}
    (hok : (h.perform plugin call).result = some (.ok reply)) :
    ∃ h₁ finding, h.Settles plugin call h₁ finding := by
  by_cases haccepts : h.registry.Accepts plugin
  swap
  · have hopen : isOpen call = false := by
      cases call <;> first | rfl | cases hreads
    rw [perform_of_not_accepts haccepts hopen] at hok
    cases hok
  have haccepts' : ∀ h' : Host, h'.registry = h.registry → h'.registry.Accepts plugin := by
    intro h' hregistry
    rwa [hregistry]
  by_cases hplain : ∀ connection subject,
      call ≠ .onSession connection (Directory.Subject.call subject)
  · obtain ⟨finding, hfinding⟩ := exists_finding h plugin hreads hplain
    refine ⟨h, finding, rfl, rfl, ?_, fun h' hagrees => ?_⟩
    · rw [perform_of_accepts haccepts, hfinding h (.refl h)]
    · rw [perform_of_accepts (haccepts' h' hagrees.registry_eq), hfinding h' hagrees]
  · push Not at hplain
    obtain ⟨connection, subject, rfl⟩ := hplain
    rw [perform_of_accepts haccepts, performAccepted] at hok
    cases hsynchronized : h.synchronized connection with
    | error code =>
      rw [hsynchronized] at hok
      cases hok
    | ok found =>
      obtain ⟨s, localUser⟩ := found
      rw [hsynchronized] at hok
      have hsession := session_of_synchronized hsynchronized
      obtain ⟨h₁, directory, text, hledger, hallocator, hregistry, hsession₁, hperform, hagain⟩ :=
        performOnSession_call_settled hsession hok
      refine ⟨h₁, .contents subject.call.name (.ofText text), hledger, hallocator, ?_,
        fun h' hagrees => ?_⟩
      · rw [perform_of_accepts haccepts, performAccepted, hsynchronized]
        exact hperform
      · have hsynchronized' := synchronized_of_directory hsynchronized
          (hagrees.session_eq.trans hsession₁)
        rw [perform_of_accepts (haccepts' h' (hagrees.registry_eq.trans hregistry)),
          performAccepted, hsynchronized']
        exact hagain h'

/-! ## Lending again -/

variable {name : String} {contents : Contents}

/-- A call that ends by lending, and succeeds, has added one buffer and changed nothing else. -/
lemma lend_answered (hconsistent : h.ledger.Consistent) {reply : Reply}
    (hlend : h.lend plugin name contents = ⟨some (.ok reply), h'⟩) :
    reply = .lent ⟨h.allocator.fresh, contents⟩ ∧ h'.unlent = h.unlent ∧ h'.ledger.Consistent ∧
      ∀ address, h'.ledger.loan? address =
        if address = h.allocator.fresh then some ⟨⟨h.allocator.fresh, contents⟩, plugin, name⟩
        else h.ledger.loan? address := by
  cases hregister : h.ledger.register ⟨h.allocator.fresh, contents⟩ plugin name with
  | none =>
    simp only [lend, Ledger.lend, hregister] at hlend
    cases hlend
  | some entry =>
    obtain ⟨handle, ledger⟩ := entry
    simp only [lend, Ledger.lend, hregister] at hlend
    cases hlend
    unfold Ledger.register at hregister
    split_ifs at hregister with hlive
    have hnew : h.ledger.contains h.allocator.fresh = false := Bool.eq_false_of_not_eq_true hlive
    have hinserted := Ledger.inserted_of_insert hconsistent hregister
    exact ⟨rfl, rfl, hinserted.consistent hconsistent hnew,
      hinserted.loan?_eq hconsistent hnew⟩

lemma lend_of_fresh (hconsistent : h.ledger.Consistent)
    (hfresh : h.ledger.contains h.allocator.fresh = false)
    (hroom : h.ledger.size < Ledger.capacity) (plugin : PluginId) (name : String)
    (contents : Contents) :
    ∃ h', h.lend plugin name contents =
      ⟨some (.ok (.lent ⟨h.allocator.fresh, contents⟩)), h'⟩ := by
  obtain ⟨handle, ledger, hlend, -⟩ := hconsistent.lend_ok hfresh hroom contents plugin name
  exact ⟨{ h with ledger := ledger, allocator := h.allocator.advance }, by rw [lend, hlend]; rfl⟩

/-- Where there is no place for a buffer, lending is refused. -/
lemma lend_of_not_fresh (hconsistent : h.ledger.Consistent)
    (hplace : ¬ (h.ledger.contains h.allocator.fresh = false ∧ h.ledger.size < Ledger.capacity))
    (plugin : PluginId) (name : String) (contents : Contents) :
    h.lend plugin name contents = h.refuse .internalError := by
  have hregister : h.ledger.register ⟨h.allocator.fresh, contents⟩ plugin name = none := by
    unfold Ledger.register
    split_ifs with hlive
    · rfl
    · rw [← Option.not_isSome_iff_eq_none, Ledger.insert_isSome_iff hconsistent]
      exact fun hroom => hplace ⟨Bool.eq_false_of_not_eq_true hlive, hroom⟩
  simp only [lend, Ledger.lend, hregister]

end Host

/-- What `plugin` has as `buffer` is lent to it once more: the buffer is still there, and so is
another one with the same contents, which was entered under the same name; nothing else has
changed. -/
structure Service.LendsAgain (s : Service) (plugin : PluginId) (buffer : Buffer)
    (entered : Entered) : Prop where
  status_eq : entered.status = Status.ok
  reply_eq : entered.reply = some (.lent ⟨s.host.allocator.fresh, buffer.contents⟩)
  place_ne : s.host.allocator.fresh ≠ buffer.address
  running_eq : entered.service.running = s.running
  unlent_eq : entered.service.host.unlent = s.host.unlent
  loans : ∃ name, s.loan? buffer.address = some ⟨buffer, plugin, name⟩ ∧
    ∀ address, entered.service.loan? address =
      if address = s.host.allocator.fresh then
        some ⟨⟨s.host.allocator.fresh, buffer.contents⟩, plugin, name⟩
      else s.loan? address

namespace Service

/-- The service with other texts known by hash. -/
def withBlobs (s : Service) (blobs : BlobStore) : Service :=
  s.withHost { s.host with blobs := blobs }

variable {s : Service} {r : PluginRequest} {call : Call}

/-- Only a host that runs answers, and only when the call was answered. -/
lemma exists_reply_of_status_ok (hcall : r.call? = some call)
    (hok : (s.serve r).status = Status.ok) :
    s.running = true ∧ ∃ reply host,
      s.host.perform r.plugin call = ⟨some (.ok reply), host⟩ ∧
      s.serve r = ⟨Status.ok, some reply, s.withHost host⟩ := by
  cases hrunning : s.running with
  | false =>
    rw [serve_of_call hcall, call_of_stopped _ _ _ hrunning] at hok
    exact absurd hok (raw_ne_ok .internalError)
  | true =>
    rcases hperform : s.host.perform r.plugin call with ⟨_ | code | reply, host⟩
    · obtain ⟨code, hserve⟩ := serve_of_crash hrunning hcall hperform
      rw [hserve] at hok
      exact absurd hok (raw_ne_ok code)
    · rw [serve_of_result hrunning hcall hperform] at hok
      exact absurd hok (raw_ne_ok code)
    · exact ⟨rfl, reply, host, rfl, serve_of_result hrunning hcall hperform⟩

/-- **Who asks again has the same answer.**  When a reading call succeeds, its repetition gives the
same value and changes nothing; or, if a buffer was lent, a buffer with the same contents, at
another place.  Only when the allocator has no place that is free, or the ledger has no slot left,
the buffer is refused, and nothing changes.  Slots can run out because the host numbers them with
thirty-two bits; this limit is its own.  It makes no difference which texts are known by hash the
second time. -/
theorem serve_repeated (hreach : s.host.Reachable) (hcall : r.call? = some call)
    (hreads : call.isReading = true) (hok : (s.serve r).status = Status.ok) (blobs : BlobStore) :
    let between := (s.serve r).service.withBlobs blobs
    ∃ reply, (s.serve r).reply = some reply ∧
      (reply.buffer? = none → between.serve r = ⟨Status.ok, some reply, between⟩) ∧
      ∀ buffer, reply = .lent buffer →
        if between.host.ledger.contains between.host.allocator.fresh = false ∧
            between.host.ledger.size < Ledger.capacity then
          between.LendsAgain r.plugin buffer (between.serve r)
        else between.serve r = ⟨ErrorCode.internalError.raw, none, between⟩ := by
  obtain ⟨hrunning, reply, host, hperform, hserve⟩ := exists_reply_of_status_ok hcall hok
  obtain ⟨h₁, finding, hsettles⟩ :=
    Host.exists_settles hreads (congrArg Outcome.result hperform)
  have htell := hperform.symm.trans hsettles.perform_eq
  have hconsistent : h₁.ledger.Consistent := by
    rw [hsettles.ledger_eq]
    exact hreach.consistent
  rw [hserve]
  intro between
  refine ⟨reply, rfl, ?_⟩
  cases finding with
  | refusal code => cases htell
  | value reply' hvalue =>
    cases htell
    have hagain := hsettles.again between.host (.of_unlent rfl blobs)
    refine ⟨fun _ => serve_of_result (s := between) hrunning hcall hagain, fun buffer hbuffer => ?_⟩
    rw [hbuffer] at hvalue
    cases hvalue
  | contents name contents =>
    obtain ⟨rfl, hunlent, hconsistent', hloans⟩ := Host.lend_answered hconsistent htell.symm
    replace hconsistent' : between.host.ledger.Consistent := hconsistent'
    have hlent : between.loan? h₁.allocator.fresh =
        some ⟨⟨h₁.allocator.fresh, contents⟩, r.plugin, name⟩ :=
      (hloans h₁.allocator.fresh).trans (if_pos rfl)
    have hagain := hsettles.again between.host (.of_unlent hunlent blobs)
    refine ⟨nofun, fun buffer hbuffer => ?_⟩
    cases hbuffer
    split_ifs with hplace
    · obtain ⟨hfresh, hroom⟩ := hplace
      obtain ⟨host', hlend⟩ := Host.lend_of_fresh hconsistent' hfresh hroom r.plugin name contents
      obtain ⟨-, hunlent', -, hloans'⟩ := Host.lend_answered hconsistent' hlend
      rw [serve_of_result (s := between) hrunning hcall (hagain.trans hlend)]
      refine ⟨rfl, rfl, ?_, rfl, hunlent', name, hlent, hloans'⟩
      -- where the first buffer is, the ledger has something
      intro hsame
      rw [hsame, ← hconsistent'.loan?_eq_none_iff] at hfresh
      rw [loan?, hfresh] at hlent
      cases hlent
    · have hrefused := Host.lend_of_not_fresh hconsistent' hplace r.plugin name contents
      exact serve_of_result (s := between) hrunning hcall (hagain.trans hrefused)

/-- The comment of a user is asked for, the store forgets it, and it is asked for again. -/
theorem serve_repeated_bashful :
    let r : PluginRequest :=
      ⟨.plugin, 3, .entry .v1_0 (.plain (.onSession 0 (.getUserComment 2))) ⟨true, false⟩⟩
    let first := (⟨.bashful, true⟩ : Service).serve r
    let again := (first.service.withBlobs .empty).serve r
    first.reply = some (.lent ⟨.allocation 0, .text (Utf8.encode "hello")⟩) ∧
      again.status = Status.ok ∧
      again.reply = some (.lent ⟨.allocation 1, .text (Utf8.encode "hello")⟩) := by
  intro r first again
  obtain ⟨reply, hreply, -, hlends⟩ :=
    serve_repeated (s := ⟨.bashful, true⟩) (r := r) Host.reachable_bashful rfl rfl rfl .empty
  have hfirst : first.reply = some (.lent ⟨.allocation 0, .text (Utf8.encode "hello")⟩) := rfl
  obtain rfl := Option.some.inj (hreply.symm.trans hfirst)
  have hagain := hlends _ rfl
  rw [if_pos ⟨rfl, by decide⟩] at hagain
  exact ⟨hfirst, hagain.status_eq, hagain.reply_eq⟩

end Service

end PluginHost
