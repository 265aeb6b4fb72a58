/-
# Writing and reading the own comment

A plugin publishes a comment of the local user, and later some plugin reads it.  The request
writes the text into the record of the user, but leaves the hash there that may have come with an
earlier comment; the reading call goes by the hash as soon as the text is empty.  So what was
written is read again, unless it was empty and the record has a hash: then the earlier comment is
back, or the answer is that it is yet to come (`Service.serve_getUserComment`).
-/
import PluginHost.Proofs.Call.Account
import PluginHost.Proofs.Call.Precedence
import PluginHost.Proofs.Directory
import PluginHost.Proofs.Text.Utf8

namespace PluginHost

/-- A plugin asks that `comment` be published, through a table as text that ends with a NUL. -/
def PluginRequest.Publishes (r : PluginRequest) (connection : ConnectionHandle)
    (comment : String) : Prop :=
  match r.way with
  | .entry _ call _ =>
    call = .requestSetLocalUserComment connection (some (Terminated.store (Utf8.encode comment)))
  | .method call => call = .onSession connection (.requestSetLocalUserComment comment)

/-- A plugin asks for the comment of a user, and gives a place for it. -/
def PluginRequest.Reads (r : PluginRequest) (connection : ConnectionHandle) (user : UserId) :
    Prop :=
  match r.way with
  | .entry _ call targets =>
    call = .plain (.onSession connection (.getUserComment user)) ∧ targets.out = true
  | .method call => call = .onSession connection (.getUserComment user)

namespace PluginRequest

variable {r : PluginRequest} {connection : ConnectionHandle}

lemma Publishes.call?_eq {comment : String} (hpublishes : r.Publishes connection comment)
    (hnul : '\x00' ∉ comment.toList) :
    r.call? = some (.onSession connection (.requestSetLocalUserComment comment)) := by
  rcases r with ⟨thread, plugin, ⟨table, call, targets⟩ | call⟩
  · replace hpublishes : call = .requestSetLocalUserComment connection
      (some (Terminated.store (Utf8.encode comment))) := hpublishes
    subst hpublishes
    -- the text is read up to its NUL, and has none before
    simp only [call?, CallWay.call?, TableCall.complete?, TableCall.read?, TableCall.decode?,
      Option.map_some, Terminated.read_store_encode, Terminated.cut_eq_self hnul]
    rfl
  · replace hpublishes : call = .onSession connection (.requestSetLocalUserComment comment) :=
      hpublishes
    rw [hpublishes, call?, CallWay.call?]

lemma Reads.call?_eq {user : UserId} (hreads : r.Reads connection user) :
    r.call? = some (.onSession connection (.getUserComment user)) := by
  rcases r with ⟨thread, plugin, ⟨table, call, ⟨out, count⟩⟩ | call⟩
  · obtain ⟨rfl, rfl⟩ : call = .plain (.onSession connection (.getUserComment user)) ∧
      out = true := hreads
    rfl
  · replace hreads : call = .onSession connection (.getUserComment user) := hreads
    rw [hreads, call?, CallWay.call?]

end PluginRequest

/-! ## Performing the two calls -/

namespace Host

variable {h : Host} {plugin : PluginId} {s : Session} {localUser : UserId}

/-- A buffer is given where the ledger takes it. -/
lemma lend_of_accepts {host : Host} (hroom : host.ledger.accepts host.allocator.fresh = true)
    (plugin : PluginId) (name : String) (contents : Contents) :
    ∃ ledger, host.lend plugin name contents =
      { host with ledger := ledger, allocator := host.allocator.advance }.answer
        (.lent ⟨host.allocator.fresh, contents⟩) := by
  rw [← host.ledger.register_isSome ⟨host.allocator.fresh, contents⟩ plugin name,
    Option.isSome_iff_exists] at hroom
  obtain ⟨⟨handle, ledger⟩, hregister⟩ := hroom
  exact ⟨ledger, by simp only [lend, Ledger.lend, hregister]⟩

lemma perform_requestSetLocalUserComment (haccepts : h.registry.Accepts plugin)
    (hsession : h.session = some s) (hlocal : s.localUser = some localUser)
    {record : UserRecord} (hrecord : s.directory.user? localUser = some record)
    {requests : List ClientRequest} (hclient : h.client = some requests) (comment : String) :
    h.perform plugin (.onSession s.connection (.requestSetLocalUserComment comment)) =
      answer
        { h with
          client := some (requests ++ [ClientRequest.comment localUser comment])
          session := some
            { s with directory := (s.directory.setUserComment localUser comment).2 } } .unit := by
  rw [perform_of_accepts haccepts]
  simp only [performAccepted, synchronized_eq hsession hlocal, performOnSession, hrecord, hclient]
  rfl

/-- A comment is read as the record has it, from the text or through the hash. -/
lemma perform_getUserComment (haccepts : h.registry.Accepts plugin)
    (hsession : h.session = some s) (hlocal : s.localUser = some localUser) {user : UserId}
    {record : UserRecord} (hrecord : s.directory.user? user = some record)
    (hroom : h.ledger.accepts h.allocator.fresh = true) :
    (h.perform plugin (.onSession s.connection (.getUserComment user))).result =
      some (((h.blobs.textOf record.comment record.commentHash).map
        fun text => Reply.lent ⟨h.allocator.fresh, .ofText text⟩).elim
          (.error .unsynchronizedBlob) .ok) := by
  rw [perform_of_accepts haccepts]
  simp only [performAccepted, synchronized_eq hsession hlocal, performOnSession, hrecord,
    resolve_eq, BlobStore.textOf]
  have hlend : ∀ (host : Host) (contents : Contents), host.ledger = h.ledger →
      host.allocator = h.allocator → (host.lend plugin "get_user_comment" contents).result =
        some (.ok (.lent ⟨h.allocator.fresh, contents⟩)) := by
    intro host contents hledger hallocator
    rw [← hledger, ← hallocator] at hroom
    obtain ⟨ledger, hlent⟩ := lend_of_accepts hroom plugin "get_user_comment" contents
    rw [hlent, ← hallocator]
    rfl
  split_ifs with hknown
  · exact hlend h _ rfl rfl
  · rcases h.blobs.text? record.commentHash with _ | text
    · rfl
    · exact hlend _ _ rfl rfl

/-- The session of another host is the same connection, and has the same local user and the same
users and channels. -/
def SameSession (h h' : Host) : Prop :=
  ∃ s s', h.session = some s ∧ h'.session = some s' ∧ s'.connection = s.connection ∧
    s'.localUser = s.localUser ∧ s'.directory = s.directory

/-- A host that knows a comment of its local user, and the hash that it came with. -/
def annotated : Host :=
  { lonely.mapDirectory fun d => d.upsertUser ⟨1, "Me", "0", "old", [1], some 0, false⟩ with
    client := some []
    blobs := BlobStore.empty.insert [1] (Utf8.encode "old") }

end Host

/-! ## Writing, then reading -/

namespace Service

/-- **The own comment is read as it was written, unless its hash gets in the way.**  A request for
a comment without NUL succeeds.  Whatever happens to other parts of the host, a plugin that asks
for the comment then gets what was written, if this is not empty or the record has no hash.  If it
is empty and the record has a hash, the plugin gets what is found under the hash. -/
theorem serve_getUserComment {h : Host} {s : Session} {localUser : UserId} {record : UserRecord}
    {requests : List ClientRequest} (hsession : h.session = some s)
    (hlocal : s.localUser = some localUser)
    (hrecord : s.directory.user? localUser = some record) (hclient : h.client = some requests)
    {comment : String} (hnul : '\x00' ∉ comment.toList) {write : PluginRequest}
    (hwrite : write.Publishes s.connection comment) (haccepts : h.registry.Accepts write.plugin) :
    let written := (⟨h, true⟩ : Service).serve write
    written.status = Status.ok ∧
    written.service.host.client =
      some (requests ++ [ClientRequest.comment localUser comment]) ∧
    ∀ (h' : Host) (read : PluginRequest), written.service.host.SameSession h' →
      read.Reads s.connection localUser → h'.registry.Accepts read.plugin →
      h'.ledger.accepts h'.allocator.fresh = true →
      let got := (⟨h', true⟩ : Service).serve read
      (comment ≠ "" ∨ record.commentHash = [] → got.status = Status.ok ∧
        got.reply = some (.lent ⟨h'.allocator.fresh, .text (Utf8.encode comment)⟩)) ∧
      (comment = "" → record.commentHash ≠ [] →
        match h'.blobs.text? record.commentHash with
        | some old => got.status = Status.ok ∧
            got.reply = some (.lent ⟨h'.allocator.fresh, .ofText old⟩)
        | none => got.status = ErrorCode.unsynchronizedBlob.raw ∧ got.reply = none) := by
  intro written
  have hwritten : written = ⟨Status.ok, some .unit, ⟨_, true⟩⟩ :=
    serve_of_result (s := ⟨h, true⟩) rfl (hwrite.call?_eq hnul)
      (Host.perform_requestSetLocalUserComment haccepts hsession hlocal hrecord hclient comment)
  rw [hwritten]
  refine ⟨rfl, rfl, fun h' read hsame hread haccepts' hroom => ?_⟩
  obtain ⟨s₁, s', hs₁, hsession', hconnection, hlocal', hdirectory⟩ := hsame
  cases hs₁
  replace hlocal' : s'.localUser = some localUser := hlocal'.trans hlocal
  have hrecord' : s'.directory.user? localUser = some { record with comment := comment } := by
    rw [hdirectory]
    exact Directory.user?_setUserComment hrecord comment
  replace hconnection : s'.connection = s.connection := hconnection
  rw [← hconnection] at hread
  have hresult := Host.perform_getUserComment haccepts' hsession' hlocal' hrecord' hroom
  rcases hperform : h'.perform read.plugin (.onSession s'.connection (.getUserComment localUser))
    with ⟨result, host⟩
  rw [hperform] at hresult
  replace hresult : result = _ := hresult
  subst hresult
  intro got
  have hgot : got = _ := serve_of_result (s := ⟨h', true⟩) rfl hread.call?_eq hperform
  rw [hgot]
  dsimp only [BlobStore.textOf]
  constructor
  · intro hkept
    have htext : Contents.ofText comment = .text (Utf8.encode comment) := by
      rw [Contents.ofText_eq, Terminated.cut_eq_self hnul]
    rw [if_pos hkept, ← htext]
    exact ⟨rfl, rfl⟩
  · rintro rfl hhash
    rw [if_neg (by simp [hhash])]
    rcases h'.blobs.text? record.commentHash with _ | old <;> exact ⟨rfl, rfl⟩

/-- A comment that is written over another one is read again. -/
theorem serve_getUserComment_annotated :
    let write : PluginRequest :=
      ⟨.plugin, 3, .entry .v1_0 (.requestSetLocalUserComment 0 (some [97, 102, 107, 0]))
        ⟨false, false⟩⟩
    let read : PluginRequest :=
      ⟨.plugin, 3, .entry .v1_2 (.plain (.onSession 0 (.getUserComment 1))) ⟨true, false⟩⟩
    let written := (⟨.annotated, true⟩ : Service).serve write
    let got := written.service.serve read
    written.status = Status.ok ∧ got.status = Status.ok ∧
      got.reply = some (.lent ⟨.allocation 0, .text (Utf8.encode "afk")⟩) := by
  intro write read written got
  have haccepts : Host.annotated.registry.Accepts 3 := by decide
  have hpublishes : write.Publishes 0 "afk" := rfl
  obtain ⟨hstatus, -, hread⟩ := serve_getUserComment (h := .annotated) rfl rfl rfl rfl (by decide)
    hpublishes haccepts
  have hgot := (hread written.service.host read ⟨_, _, rfl, rfl, rfl, rfl, rfl⟩ ⟨rfl, rfl⟩
    haccepts rfl).1 (Or.inl (by decide))
  exact ⟨hstatus, hgot⟩

/-- A comment is taken back, and is there again. -/
theorem serve_getUserComment_withdrawn :
    let write : PluginRequest :=
      ⟨.plugin, 3, .entry .v1_0 (.requestSetLocalUserComment 0 (some [0])) ⟨false, false⟩⟩
    let read : PluginRequest :=
      ⟨.plugin, 3, .entry .v1_0 (.plain (.onSession 0 (.getUserComment 1))) ⟨true, false⟩⟩
    let written := (⟨.annotated, true⟩ : Service).serve write
    let got := written.service.serve read
    write.Publishes 0 "" ∧ written.status = Status.ok ∧ got.status = Status.ok ∧
      got.reply = some (.lent ⟨.allocation 0, .text (Utf8.encode "old")⟩) ∧
      got.reply ≠ some (.lent ⟨.allocation 0, .text (Utf8.encode "")⟩) := by
  intro write read written got
  have hreply : got.reply = some (.lent ⟨.allocation 0, .text (Utf8.encode "old")⟩) := rfl
  refine ⟨rfl, rfl, rfl, hreply, ?_⟩
  rw [hreply]
  decide

end Service

end PluginHost
