/-
# What a snapshot writes in digits

A snapshot has octets in two places, and writes them in pairs of digits: the digest of the server's
certificate, and the hashes of texts.  They are read when they are needed.  The digest is written
again when a plugin asks for it, and comes out as it stands in the snapshot, in lower case.  A hash
is only ever compared, so it does not matter in which case its letters were written: of several
entries whose hashes are the same octets the last one counts.

What is no pair of digits is refused, and of several hashes that are none the first one is named
(`Snapshot.transcribed`).
-/
import PluginHost.Proofs.Call.Comment
import PluginHost.Proofs.Probe.Report

namespace PluginHost

/-! ## The digest -/

namespace Service

/-- A plugin that asks for the digest of the server gets it in digits, in a buffer of its own. -/
lemma serve_getServerHash {h : Host} {s : Session} {localUser : UserId} {r : PluginRequest}
    (hsession : h.session = some s) (hlocal : s.localUser = some localUser)
    (haccepts : h.registry.Accepts r.plugin)
    (hcall : r.call? = some (.onSession s.connection .getServerHash))
    (hconsistent : h.ledger.Consistent) (hfree : h.ledger.contains h.allocator.fresh = false)
    (hroom : h.ledger.size < Ledger.capacity) :
    let served := (⟨h, true⟩ : Service).serve r
    let buffer : Buffer := ⟨h.allocator.fresh, .text (Utf8.encode (Hex.encode s.link.digest))⟩
    served.status = Status.ok ∧ served.reply = some (.lent buffer) ∧
      served.service.loan? buffer.address = some ⟨buffer, r.plugin, "get_server_hash"⟩ := by
  intro served buffer
  have hcontents : Contents.ofText (Hex.encode s.link.digest) = buffer.contents := by
    rw [Contents.ofText_eq, Hex.cut_encode]
  obtain ⟨handle, ledger, hlend, hinserted⟩ :=
    hconsistent.lend_ok hfree hroom buffer.contents r.plugin "get_server_hash"
  have hperform : h.perform r.plugin (.onSession s.connection .getServerHash) =
      { h with ledger := ledger, allocator := h.allocator.advance }.answer (.lent buffer) := by
    rw [Host.perform_of_accepts haccepts]
    simp only [Host.performAccepted, Host.synchronized_eq hsession hlocal, Host.performOnSession,
      hcontents, Host.lend, SessionCall.name, hlend]
    rfl
  have hserved : served = ⟨Status.ok, some (.lent buffer), ⟨_, true⟩⟩ :=
    serve_of_result (s := ⟨h, true⟩) rfl hcall hperform
  rw [hserved]
  exact ⟨rfl, rfl, hinserted.loan?_self hconsistent hfree⟩

end Service

namespace Snapshot

variable {s : Snapshot} {front rear : List BlobEntry} {entry : BlobEntry}

lemma link_cases (s : Snapshot) :
    (Hex.Writes s.certificateDigest ∧ ∃ digest, s.link = .ok (.new s.serverVersion digest) ∧
      Hex.encode digest = Hex.lower s.certificateDigest) ∨
    (¬ Hex.Writes s.certificateDigest ∧ ∃ error, s.link = .error (.digest error) ∧
      Hex.Faulty (Utf8.encode s.certificateDigest) error) := by
  unfold link
  rcases Hex.decode_cases s.certificateDigest with ⟨hwrites, digest, hdecode, hlower⟩ |
    ⟨hwrites, error, hdecode, hfaulty⟩
  · exact .inl ⟨hwrites, digest, by rw [hdecode], hlower⟩
  · exact .inr ⟨hwrites, error, by rw [hdecode], hfaulty⟩

/-! ## The hashes -/

/-- Storing stops at the first hash that is not written in digits. -/
lemma storeBlobs_of_not_writes (hfront : ∀ other ∈ front, Hex.Writes other.hash)
    {error : Hex.Error} (hentry : Hex.decode entry.hash = .error error) (store : BlobStore) :
    storeBlobs store (front ++ entry :: rear) = .error (.blobHash entry.hash error) := by
  induction front generalizing store with
  | nil => simp only [List.nil_append, storeBlobs, hentry]
  | cons other front ih =>
    obtain ⟨bytes, hdecode, -⟩ := Hex.decode_of_writes (hfront other List.mem_cons_self)
    simp only [List.cons_append, storeBlobs, hdecode]
    exact ih (fun other' hother' => hfront other' (List.mem_cons_of_mem _ hother')) _

/-- All hashes are written in digits, or there is a first one that is not. -/
lemma writes_or_split (entries : List BlobEntry) :
    (∀ entry ∈ entries, Hex.Writes entry.hash) ∨
    ∃ front entry rear, entries = front ++ entry :: rear ∧
      (∀ other ∈ front, Hex.Writes other.hash) ∧ ¬ Hex.Writes entry.hash := by
  induction entries with
  | nil => exact .inl nofun
  | cons first entries ih =>
    by_cases hfirst : Hex.Writes first.hash
    · rcases ih with hall | ⟨front, entry, rear, rfl, hfront, hentry⟩
      · exact .inl (List.forall_mem_cons.2 ⟨hfirst, hall⟩)
      · exact .inr ⟨first :: front, entry, rear, rfl, List.forall_mem_cons.2 ⟨hfirst, hfront⟩,
          hentry⟩
    · exact .inr ⟨[], first, entries, rfl, nofun, hfirst⟩

lemma blobStore_isOk_iff :
    (∃ blobs, s.blobStore = .ok blobs) ↔ ∀ entry ∈ s.blobs, Hex.Writes entry.hash := by
  constructor
  · rintro ⟨blobs, hblobs⟩
    rcases writes_or_split s.blobs with hall | ⟨front, entry, rear, hsplit, hfront, hentry⟩
    · exact hall
    · rcases Hex.decode_cases entry.hash with ⟨hwrites, -⟩ | ⟨-, error, hdecode, -⟩
      · exact absurd hwrites hentry
      · rw [blobStore, hsplit, storeBlobs_of_not_writes hfront hdecode] at hblobs
        cases hblobs
  · intro hwrites
    obtain ⟨blobs, hblobs, -⟩ := storeBlobs_eq hwrites .empty
    exact ⟨blobs, hblobs⟩

/-- Hashes are the same octets if they are the same in lower case. -/
lemma decode_eq_ok_iff {t : String} (ht : Hex.Writes t) {bytes : Bytes} :
    Hex.decode t = .ok bytes ↔ Hex.lower t = Hex.encode bytes := by
  obtain ⟨bytes', hdecode, hlower⟩ := Hex.decode_of_writes ht
  rw [hdecode, ← hlower, Except.ok.injEq]
  exact ⟨fun heq => by rw [heq], Hex.encode_injective⟩

/-! ## What is read -/

/-- What is read of the digits in a snapshot, where `hex` says of a text that it has digits only, of
either case, and is even in length. -/
structure Transcribed (s : Snapshot) (hex : String → Prop) : Prop where
  /-- There is a line to the server if the digest is written in digits. -/
  link_iff : (∃ link, s.link = .ok link) ↔ hex s.certificateDigest
  /-- Otherwise the digest is named, and the first thing that is wrong with it. -/
  link_error : ¬ hex s.certificateDigest → ∃ error, s.link = .error (.digest error) ∧
    Hex.Faulty (Utf8.encode s.certificateDigest) error
  /-- In a session with such a line a plugin that asks for the digest is lent the text of the
  snapshot in lower case, if there is room for it: a place that is free, and one of the `2 ^ 32`
  slots, to which the ledger limits itself. -/
  serverHash : ∀ link, s.link = .ok link →
    ∀ (h : Host) (session : Session) (localUser : UserId) (r : PluginRequest),
    h.session = some session → session.link.digest = link.digest →
    session.localUser = some localUser → h.registry.Accepts r.plugin →
    r.call? = some (.onSession session.connection .getServerHash) → h.ledger.Consistent →
    h.ledger.contains h.allocator.fresh = false → h.ledger.size < Ledger.capacity →
    let served := (⟨h, true⟩ : Service).serve r
    let buffer : Buffer :=
      ⟨h.allocator.fresh, .text (Utf8.encode (Hex.lower s.certificateDigest))⟩
    served.status = Status.ok ∧ served.reply = some (.lent buffer) ∧
      served.service.loan? buffer.address = some ⟨buffer, r.plugin, "get_server_hash"⟩
  /-- There is a store of texts if all hashes are written in digits. -/
  blobStore_iff : (∃ blobs, s.blobStore = .ok blobs) ↔ ∀ entry ∈ s.blobs, hex entry.hash
  /-- Otherwise the first hash that is not is named, and the first thing that is wrong with it. -/
  blobStore_error : ∀ front entry rear, s.blobs = front ++ entry :: rear →
    (∀ other ∈ front, hex other.hash) → ¬ hex entry.hash →
    ∃ error, s.blobStore = .error (.blobHash entry.hash error) ∧
      Hex.Faulty (Utf8.encode entry.hash) error
  /-- Of the entries that have a hash the last one is found. -/
  get?_of_last : ∀ blobs hash, s.blobStore = .ok blobs → ∀ front entry rear,
    s.blobs = front ++ entry :: rear → Hex.decode entry.hash = .ok hash →
    (∀ later ∈ rear, Hex.decode later.hash ≠ .ok hash) →
    blobs.get? hash = some (Utf8.encode entry.content)
  /-- Nothing is found under a hash that no entry has. -/
  get?_of_none : ∀ blobs hash, s.blobStore = .ok blobs →
    (∀ entry ∈ s.blobs, Hex.decode entry.hash ≠ .ok hash) → blobs.get? hash = none
  /-- An entry has a hash if it has its digits, in whichever case. -/
  hash_iff : ∀ entry ∈ s.blobs, hex entry.hash → ∀ hash,
    Hex.decode entry.hash = .ok hash ↔ Hex.lower entry.hash = Hex.encode hash

/-- Under a hash the store has the last entry with its digits. -/
lemma get?_eq {blobs : BlobStore} (hblobs : s.blobStore = .ok blobs) (hash : Bytes) :
    blobs.get? hash = (s.blobEntry? hash).map fun entry => Utf8.encode entry.content := by
  obtain ⟨blobs', hblobs', hget⟩ := storeBlobs_eq (blobStore_isOk_iff.1 ⟨blobs, hblobs⟩) .empty
  cases hblobs.symm.trans hblobs'
  rw [hget, blobEntry?]
  exact Option.or_none

/-- **Digits are read in either case, and the last entry counts.**  Of every snapshot all that is
said in `Transcribed` is true. -/
theorem transcribed (s : Snapshot) :
    s.Transcribed fun t => t.utf8ByteSize % 2 = 0 ∧ ∀ c ∈ t.toList, Hex.IsDigit c := by
  simp only [← Hex.writes_iff]
  constructor
  · rcases s.link_cases with ⟨hwrites, digest, hlink, -⟩ | ⟨hwrites, error, hlink, -⟩
    · simp [hlink, hwrites]
    · simp [hlink, hwrites]
  · intro hnot
    rcases s.link_cases with ⟨hwrites, -⟩ | ⟨-, hfaulty⟩
    · exact absurd hwrites hnot
    · exact hfaulty
  · intro link hlink h session localUser r hsession hdigest hlocal haccepts hcall hconsistent hfree
      hroom
    rcases s.link_cases with ⟨-, digest, hlink', hlower⟩ | ⟨-, error, hlink', -⟩
    · cases hlink.symm.trans hlink'
      have hserved := Service.serve_getServerHash hsession hlocal haccepts hcall hconsistent hfree
        hroom
      rwa [hdigest, Link.new, hlower] at hserved
    · cases hlink.symm.trans hlink'
  · exact blobStore_isOk_iff
  · intro front entry rear hsplit hfront hentry
    rcases Hex.decode_cases entry.hash with ⟨hwrites, -⟩ | ⟨-, error, hdecode, hfaulty⟩
    · exact absurd hwrites hentry
    · refine ⟨error, ?_, hfaulty⟩
      rw [blobStore, hsplit, storeBlobs_of_not_writes hfront hdecode]
  · intro blobs hash hblobs front entry rear hsplit hentry hrear
    have hwrites := blobStore_isOk_iff.1 ⟨blobs, hblobs⟩
    rw [hsplit] at hwrites
    rw [get?_eq hblobs, blobEntry?, hsplit, latest_of_split]
    · rfl
    · exact (decode_eq_ok_iff (hwrites entry (by simp))).1 hentry
    · intro later hlater heq
      exact hrear later hlater ((decode_eq_ok_iff (hwrites later (by simp [hlater]))).2 heq)
  · intro blobs hash hblobs hnone
    have hwrites := blobStore_isOk_iff.1 ⟨blobs, hblobs⟩
    rw [get?_eq hblobs, blobEntry?, latest_eq_none_iff.2 fun entry hentry heq =>
      hnone entry hentry ((decode_eq_ok_iff (hwrites entry hentry)).2 heq)]
    rfl
  · intro entry _ hwrites hash
    exact decode_eq_ok_iff hwrites

/-- The digest is lent in lower case, and of two entries whose hashes differ in the case of their
letters the second one is found. -/
theorem transcribed_mixed :
    let s : Snapshot :=
      ⟨⟨1, 5, 0⟩, "A1b2", some 1, [], [], [⟨"0A0b", "one"⟩, ⟨"0a0B", "two"⟩, ⟨"ff", "three"⟩]⟩
    let h := ((Host.lonely.connect (.new ⟨1, 5, 0⟩ [0xA1, 0xB2]) .empty).2.synchronize 1).2
    let r : PluginRequest :=
      ⟨.plugin, 3, .entry .v1_0 (.plain (.onSession 1 .getServerHash)) ⟨true, false⟩⟩
    ((⟨h, true⟩ : Service).serve r).reply =
        some (.lent ⟨.allocation 0, .text (Utf8.encode "a1b2")⟩) ∧
      ∃ blobs, s.blobStore = .ok blobs ∧ blobs.get? [0x0A, 0x0B] = some (Utf8.encode "two") ∧
        blobs.get? [0x0A] = none := by
  intro s h r
  have hread := s.transcribed
  have haccepts : h.registry.Accepts 3 := by decide
  have hlink : s.link = .ok (.new ⟨1, 5, 0⟩ [0xA1, 0xB2]) := by decide
  have hlower : Hex.lower s.certificateDigest = "a1b2" := by decide
  obtain ⟨-, hreply, -⟩ := hread.serverHash _ hlink h _ 1 r rfl rfl rfl haccepts rfl
    Ledger.consistent_empty rfl (by decide)
  rw [hlower] at hreply
  have hwrites : ∀ entry ∈ s.blobs, Hex.Writes entry.hash := by decide
  obtain ⟨blobs, hblobs⟩ := blobStore_isOk_iff.2 hwrites
  refine ⟨hreply, blobs, hblobs, ?_, ?_⟩
  · exact hread.get?_of_last blobs _ hblobs [⟨"0A0b", "one"⟩] ⟨"0a0B", "two"⟩ [⟨"ff", "three"⟩] rfl
      (by decide) (by decide)
  · exact hread.get?_of_none blobs _ hblobs (by decide)

end Snapshot
end PluginHost
