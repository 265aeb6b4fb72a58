/-
# What calls make of a directory

Two kinds of calls write into the directory because they are asked to: a plugin publishes a comment
of the local user, or keeps another user from being heard.  Two more only read, and write all the
same: where a record has no more than the hash of a text, the text that was found is noted.  So a
call leaves the directory alone or replaces one record (`Directory.Revised`), and of this record
only the text or the mute.

What any number of calls can have made of a directory in the course of a session is then seen record
by record (`Directory.Tended`).  Nobody comes or goes, and everybody keeps their number, name,
hashes and channel.  Apart from the comment of the local user, a text that is there stays, because
only an empty one is ever filled in.
-/
import PluginHost.Proofs.Call.Deed
import PluginHost.Proofs.Text.Repair

namespace PluginHost

/-! ## Both or neither -/

section Rel

variable {α : Type} {r : α → α → Prop} {a b c : Option α}

lemma rel_self (hr : ∀ x, r x x) (a : Option α) : Option.Rel r a a := by
  cases a with
  | none => exact .none
  | some x => exact .some (hr x)

lemma rel_trans (hr : ∀ x y z, r x y → r y z → r x z) (hab : Option.Rel r a b)
    (hbc : Option.Rel r b c) : Option.Rel r a c := by
  cases hab with
  | none => exact hbc
  | some hxy =>
    cases hbc with
    | some hyz => exact .some (hr _ _ _ hxy hyz)

lemma isSome_of_rel (hab : Option.Rel r a b) : b.isSome = a.isSome := by
  cases hab <;> rfl

lemma exists_of_rel {x : α} (hab : Option.Rel r (some x) b) : ∃ y, b = some y ∧ r x y := by
  cases hab with
  | some hxy => exact ⟨_, rfl, hxy⟩

end Rel

/-! ## One record -/

/-- The store supplies `text'` to a record that has no text but a hash. -/
structure BlobStore.Supplies (blobs : BlobStore) (text : String) (hash : Bytes) (text' : String) :
    Prop where
  /-- The record has no text. -/
  blank : text = ""
  /-- It has a hash. -/
  hinted : hash ≠ []
  /-- Under the hash there is a text. -/
  found : blobs.text? hash = some text'
  /-- This text is not empty. -/
  filled : text' ≠ ""

/-- What calls can have made of the record of a user, where `own` says that it is the local one. -/
structure UserRecord.Tended (blobs : BlobStore) (own : Prop) (r r' : UserRecord) : Prop where
  /-- All else is as it was. -/
  same : r' = { r with comment := r'.comment, localMute := r'.localMute }
  /-- The mute of the local user is as it was. -/
  localMute : own → r'.localMute = r.localMute
  /-- Others have the comment that they had, or the one that their hash stands for. -/
  comment : ¬ own → r'.comment = r.comment ∨ blobs.Supplies r.comment r.commentHash r'.comment

/-- What calls can have made of the record of a channel. -/
structure ChannelRecord.Tended (blobs : BlobStore) (r r' : ChannelRecord) : Prop where
  /-- All else is as it was. -/
  same : r' = { r with description := r'.description }
  /-- The description is the one that was there, or the one that the hash stands for. -/
  description : r'.description = r.description ∨
    blobs.Supplies r.description r.descriptionHash r'.description

lemma BlobStore.supplies_of_fetched? {blobs : BlobStore} {text text' : String} {hash : Bytes}
    (hfetched : blobs.fetched? text hash = some text') : blobs.Supplies text hash text' := by
  unfold BlobStore.fetched? at hfetched
  split_ifs at hfetched with hknown
  obtain ⟨hblank, hhinted⟩ := not_or.1 hknown
  refine ⟨not_not.1 hblank, hhinted, hfetched, ?_⟩
  obtain ⟨content, hcontent, rfl⟩ := Option.map_eq_some_iff.1 hfetched
  rw [Ne, Utf8.repair_eq_empty_iff]
  simpa using (Option.filter_eq_some_iff.1 hcontent).2

/-- A text that was supplied is not replaced. -/
lemma BlobStore.Supplies.kept_trans {blobs : BlobStore} {text text' text'' : String} {hash : Bytes}
    (h : text' = text ∨ blobs.Supplies text hash text')
    (h' : text'' = text' ∨ blobs.Supplies text' hash text'') :
    text'' = text ∨ blobs.Supplies text hash text'' := by
  rcases h' with rfl | hsupplies'
  · exact h
  rcases h with rfl | hsupplies
  · exact .inr hsupplies'
  · exact absurd hsupplies'.blank hsupplies.filled

namespace UserRecord.Tended

variable {blobs : BlobStore} {own : Prop} {r r' r'' : UserRecord}

lemma refl (r : UserRecord) : r.Tended blobs own r := ⟨rfl, fun _ => rfl, fun _ => .inl rfl⟩

lemma trans (h : r.Tended blobs own r') (h' : r'.Tended blobs own r'') :
    r.Tended blobs own r'' := by
  have hhash : r'.commentHash = r.commentHash := by rw [h.same]
  refine ⟨?_, fun hown => (h'.localMute hown).trans (h.localMute hown), fun hother => ?_⟩
  · rw [h'.same, h.same]
  · have hlater := h'.comment hother
    rw [hhash] at hlater
    exact BlobStore.Supplies.kept_trans (h.comment hother) hlater

end UserRecord.Tended

namespace ChannelRecord.Tended

variable {blobs : BlobStore} {r r' r'' : ChannelRecord}

lemma refl (r : ChannelRecord) : r.Tended blobs r := ⟨rfl, .inl rfl⟩

lemma trans (h : r.Tended blobs r') (h' : r'.Tended blobs r'') : r.Tended blobs r'' := by
  have hhash : r'.descriptionHash = r.descriptionHash := by rw [h.same]
  refine ⟨by rw [h'.same, h.same], ?_⟩
  have hlater := h'.description
  rw [hhash] at hlater
  exact BlobStore.Supplies.kept_trans h.description hlater

end ChannelRecord.Tended

/-! ## One call -/

namespace Directory

/-- In `d'` there is `entry` in the place of the record of `subject`, and all else of `d`. -/
def Rewritten (d : Directory) (subject : Subject) (entry : Entry) (d' : Directory) : Prop :=
  ∀ other, d'.record? other = if other = subject then some entry else d.record? other

/-- What a call can make of a directory. -/
inductive Revised (blobs : BlobStore) (localUser : Option UserId) (call? : Option Call)
    (d d' : Directory) : Prop
  /-- Nothing. -/
  | kept (hd : d' = d)
  /-- A call for a comment or a description fills in what is empty. -/
  | annotated {connection : ConnectionHandle} {subject : Subject} {entry : Entry} {text : String}
      (hcall : call? = some (.onSession connection subject.call))
      (hentry : d.record? subject = some entry)
      (hsupplies : blobs.Supplies entry.text entry.hash text)
      (hd : d.Rewritten subject (entry.withText text) d')
  /-- The comment of the local user is the one that was asked for. -/
  | published {connection : ConnectionHandle} {user : UserId} {comment : String}
      {record : UserRecord}
      (hcall : call? = some (.onSession connection (.requestSetLocalUserComment comment)))
      (hlocal : localUser = some user) (hrecord : d.user? user = some record)
      (hd : d.Rewritten (.user user) (.user { record with comment := comment }) d')
  /-- Another user is kept from being heard, or not any more. -/
  | muted {connection : ConnectionHandle} {user : UserId} {muted : Bool} {record : UserRecord}
      (hcall : call? = some (.onSession connection (.requestLocalMute user muted)))
      (hother : localUser ≠ some user) (hrecord : d.user? user = some record)
      (hd : d.Rewritten (.user user) (.user { record with localMute := muted }) d')

/-- What calls can have made of a directory, in a session with this local user. -/
structure Tended (blobs : BlobStore) (localUser : Option UserId) (d d' : Directory) : Prop where
  /-- There are the same users, with what can have become of their records. -/
  users : ∀ id, Option.Rel (UserRecord.Tended blobs (localUser = some id)) (d.user? id)
    (d'.user? id)
  /-- There are the same channels, with what can have become of their records. -/
  channels : ∀ id, Option.Rel (ChannelRecord.Tended blobs) (d.channel? id) (d'.channel? id)

variable {blobs : BlobStore} {localUser : Option UserId} {d d' d'' : Directory}

section Rewritten

variable {id : UserId} {channel : ChannelId} {record : UserRecord}

lemma rewritten_annotate {subject : Subject} {entry : Entry}
    (hentry : d.record? subject = some entry) (text : String) :
    d.Rewritten subject (entry.withText text) (d.annotate text subject) := by
  intro other
  rw [record?_annotate]
  by_cases hother : subject = other
  · rw [if_pos hother, if_pos hother.symm, ← hother, hentry, Option.map_some]
  · rw [if_neg hother, if_neg (Ne.symm hother)]

lemma rewritten_setUserComment (hrecord : d.user? id = some record) (comment : String) :
    d.Rewritten (.user id) (.user { record with comment := comment })
      (d.setUserComment id comment).2 := by
  have hentry : d.record? (.user id) = some (.user record) := by rw [record?, hrecord]; rfl
  exact rewritten_annotate hentry comment

lemma rewritten_setLocalMute (hrecord : d.user? id = some record) (muted : Bool) :
    d.Rewritten (.user id) (.user { record with localMute := muted })
      (d.setLocalMute id muted).2 := by
  intro other
  simp only [setLocalMute, updateUser, hrecord]
  cases other with
  | channel channel => rfl
  | user other =>
    simp only [record?, user?, Std.TreeMap.getElem?_insert, Std.LawfulEqCmp.compare_eq_iff_eq,
      Subject.user.injEq]
    by_cases hother : id = other
    · rw [if_pos hother, if_pos hother.symm, Option.map_some]
    · rw [if_neg hother, if_neg (Ne.symm hother)]

namespace Rewritten

lemma user?_eq {entry : Entry} {subject : Subject} (hd : d.Rewritten subject entry d')
    (hne : subject ≠ .user id) : d'.user? id = d.user? id := by
  have hrecord := hd (.user id)
  rw [if_neg (Ne.symm hne)] at hrecord
  exact Option.map_injective (fun _ _ => Entry.user.inj) hrecord

lemma channel?_eq {entry : Entry} {subject : Subject} (hd : d.Rewritten subject entry d')
    (hne : subject ≠ .channel channel) : d'.channel? channel = d.channel? channel := by
  have hrecord := hd (.channel channel)
  rw [if_neg (Ne.symm hne)] at hrecord
  exact Option.map_injective (fun _ _ => Entry.channel.inj) hrecord

lemma user?_self (hd : d.Rewritten (.user id) (.user record) d') :
    d'.user? id = some record := by
  have hrecord := hd (.user id)
  rw [if_pos rfl, record?] at hrecord
  obtain ⟨record', hrecord', hsame⟩ := Option.map_eq_some_iff.1 hrecord
  cases hsame
  exact hrecord'

lemma channel?_self {record : ChannelRecord}
    (hd : d.Rewritten (.channel channel) (.channel record) d') :
    d'.channel? channel = some record := by
  have hrecord := hd (.channel channel)
  rw [if_pos rfl, record?] at hrecord
  obtain ⟨record', hrecord', hsame⟩ := Option.map_eq_some_iff.1 hrecord
  cases hsame
  exact hrecord'

end Rewritten

end Rewritten

namespace Tended

lemma refl (d : Directory) : d.Tended blobs localUser d :=
  ⟨fun _ => rel_self UserRecord.Tended.refl _, fun _ => rel_self ChannelRecord.Tended.refl _⟩

lemma trans (h : d.Tended blobs localUser d') (h' : d'.Tended blobs localUser d'') :
    d.Tended blobs localUser d'' where
  users id := rel_trans (fun _ _ _ => UserRecord.Tended.trans) (h.users id) (h'.users id)
  channels id :=
    rel_trans (fun _ _ _ => ChannelRecord.Tended.trans) (h.channels id) (h'.channels id)

/-- The record of one user is replaced. -/
lemma of_user {id : UserId} {record record' : UserRecord} (hrecord : d.user? id = some record)
    (hd : d.Rewritten (.user id) (.user record') d')
    (htended : record.Tended blobs (localUser = some id) record') :
    d.Tended blobs localUser d' := by
  have hsame : d.Tended blobs localUser d := refl d
  refine ⟨fun other => ?_, fun channel => ?_⟩
  · by_cases hother : id = other
    · subst hother
      rw [hrecord, hd.user?_self]
      exact .some htended
    · rw [hd.user?_eq (fun heq => hother (Subject.user.inj heq))]
      exact hsame.users other
  · rw [hd.channel?_eq nofun]
    exact hsame.channels channel

/-- The record of one channel is replaced. -/
lemma of_channel {id : ChannelId} {record record' : ChannelRecord}
    (hrecord : d.channel? id = some record) (hd : d.Rewritten (.channel id) (.channel record') d')
    (htended : record.Tended blobs record') : d.Tended blobs localUser d' := by
  have hsame : d.Tended blobs localUser d := refl d
  refine ⟨fun user => ?_, fun other => ?_⟩
  · rw [hd.user?_eq nofun]
    exact hsame.users user
  · by_cases hother : id = other
    · subst hother
      rw [hrecord, hd.channel?_self]
      exact .some htended
    · rw [hd.channel?_eq (fun heq => hother (Subject.channel.inj heq))]
      exact hsame.channels other

/-- Nobody comes or goes. -/
lemma userIds_eq (h : d.Tended blobs localUser d') : d'.userIds = d.userIds := by
  refine eq_of_ascending Std.TreeMap.ordered_keys Std.TreeMap.ordered_keys fun id => ?_
  have hsame : d'.users[id]?.isSome = d.users[id]?.isSome := isSome_of_rel (h.users id)
  rw [userIds, userIds, mem_keys_iff, mem_keys_iff, hsame]

/-- No channel is made or removed. -/
lemma channelIds_eq (h : d.Tended blobs localUser d') : d'.channelIds = d.channelIds := by
  refine eq_of_ascending Std.TreeMap.ordered_keys Std.TreeMap.ordered_keys fun id => ?_
  have hsame : d'.channels[id]?.isSome = d.channels[id]?.isSome := isSome_of_rel (h.channels id)
  rw [channelIds, channelIds, mem_keys_iff, mem_keys_iff, hsame]

end Tended

/-- What one call makes of a directory is among what calls can make of it. -/
lemma Revised.tended {call? : Option Call} (h : d.Revised blobs localUser call? d') :
    d.Tended blobs localUser d' := by
  cases h with
  | kept hd =>
    rw [hd]
    exact .refl d
  | @annotated connection subject entry text hcall hentry hsupplies hd =>
    cases subject with
    | user id =>
      obtain ⟨record, hrecord, rfl⟩ := Option.map_eq_some_iff.1 hentry
      exact .of_user hrecord hd ⟨rfl, fun _ => rfl, fun _ => .inr hsupplies⟩
    | channel id =>
      obtain ⟨record, hrecord, rfl⟩ := Option.map_eq_some_iff.1 hentry
      exact .of_channel hrecord hd ⟨rfl, .inr hsupplies⟩
  | published hcall hlocal hrecord hd =>
    exact .of_user hrecord hd ⟨rfl, fun _ => rfl, fun hother => absurd hlocal hother⟩
  | muted hcall hother hrecord hd =>
    exact .of_user hrecord hd ⟨rfl, fun hown => absurd hown hother, fun _ => .inl rfl⟩

end Directory

/-! ## The host -/

/-- What calls can have made of a session. -/
structure Session.Continues (blobs : BlobStore) (s s' : Session) : Prop where
  connection_eq : s'.connection = s.connection
  localUser_eq : s'.localUser = s.localUser
  directory : s.directory.Tended blobs s.localUser s'.directory

namespace Session.Continues

variable {blobs : BlobStore} {s s' s'' : Session}

lemma refl (s : Session) : s.Continues blobs s := ⟨rfl, rfl, .refl _⟩

lemma trans (h : s.Continues blobs s') (h' : s'.Continues blobs s'') : s.Continues blobs s'' := by
  refine ⟨h'.connection_eq.trans h.connection_eq, h'.localUser_eq.trans h.localUser_eq, ?_⟩
  have hlater := h'.directory
  rw [h.localUser_eq] at hlater
  exact h.directory.trans hlater

end Session.Continues

namespace Host

/-- What calls leave of a host: who the plugins are, which texts are known, and the session, but for
what calls can make of it. -/
structure Steady (h h' : Host) : Prop where
  registry_eq : h'.registry = h.registry
  blobs_eq : h'.blobs = h.blobs
  session : Option.Rel (Session.Continues h.blobs) h.session h'.session

namespace Steady

variable {h h' h'' : Host}

lemma of_session_eq (hregistry : h'.registry = h.registry) (hblobs : h'.blobs = h.blobs)
    (hsession : h'.session = h.session) : h.Steady h' := by
  refine ⟨hregistry, hblobs, ?_⟩
  rw [hsession]
  exact rel_self Session.Continues.refl _

lemma refl (h : Host) : h.Steady h := of_session_eq rfl rfl rfl

lemma trans (h₁ : h.Steady h') (h₂ : h'.Steady h'') : h.Steady h'' := by
  refine ⟨h₂.registry_eq.trans h₁.registry_eq, h₂.blobs_eq.trans h₁.blobs_eq, ?_⟩
  have hlater := h₂.session
  rw [h₁.blobs_eq] at hlater
  exact rel_trans (fun _ _ _ => Session.Continues.trans) h₁.session hlater

lemma exists_session (hsteady : h.Steady h') {s : Session} (hs : h.session = some s) :
    ∃ s', h'.session = some s' ∧ s.Continues h.blobs s' := by
  have hsession := hsteady.session
  rw [hs] at hsession
  exact exists_of_rel hsession

end Steady

variable {h : Host} {plugin : PluginId} {call : Call} {outcome : Outcome}

/-- What a call makes of the directory. -/
lemma Deed.revised (hdeed : Deed h plugin call outcome) {s : Session} (hs : h.session = some s) :
    ∃ link directory,
      outcome.host.session = some { s with link := link, directory := directory } ∧
      s.directory.Revised h.blobs s.localUser (some call) directory := by
  have hsame {connection : ConnectionHandle} {s' : Session} {localUser : UserId}
      (hsynchronized : h.synchronized connection = .ok (s', localUser)) : s' = s := by
    rw [session_of_synchronized hsynchronized] at hs
    exact Option.some.inj hs
  cases hdeed with
  | spared hhost hparcel =>
    have hsession : outcome.host.session = h.session := part_eq Host.session (fun _ => rfl) hhost
    exact ⟨s.link, s.directory, hsession.trans hs, .kept rfl⟩
  | @annotated connection s' localUser subject entry text _ hsynchronized hentry hfetched hhost =>
    obtain rfl := hsame hsynchronized
    have hsession : outcome.host.session =
        some { s' with directory := s'.directory.annotate text subject } :=
      part_eq Host.session (fun _ => rfl) hhost
    exact ⟨s'.link, _, hsession, .annotated rfl hentry (BlobStore.supplies_of_fetched? hfetched)
      (Directory.rewritten_annotate hentry text)⟩
  | joined hsynchronized hrecord haway =>
    obtain rfl := hsame hsynchronized
    exact ⟨_, _, rfl, .kept rfl⟩
  | sent hsynchronized =>
    obtain rfl := hsame hsynchronized
    exact ⟨_, _, rfl, .kept rfl⟩
  | muted hsynchronized hother hrecord =>
    obtain rfl := hsame hsynchronized
    refine ⟨_, _, rfl, .muted rfl ?_ hrecord (Directory.rewritten_setLocalMute hrecord _)⟩
    rw [localUser_of_synchronized hsynchronized]
    exact fun heq => hother (Option.some.inj heq).symm
  | published hsynchronized hrecord hclient =>
    obtain rfl := hsame hsynchronized
    exact ⟨_, _, rfl, .published rfl (localUser_of_synchronized hsynchronized) hrecord
      (Directory.rewritten_setUserComment hrecord _)⟩
  | asked hclient hparcel => exact ⟨s.link, s.directory, hs, .kept rfl⟩
  | tuned hcontrols hparcel => exact ⟨s.link, s.directory, hs, .kept rfl⟩
  | logged hname hwrite => exact ⟨s.link, s.directory, hs, .kept rfl⟩
  | played haudio hplay => exact ⟨s.link, s.directory, hs, .kept rfl⟩

/-- What a call leaves alone. -/
lemma Deed.others (hdeed : Deed h plugin call outcome) :
    outcome.host.registry = h.registry ∧ outcome.host.blobs = h.blobs ∧
      (h.session = none → outcome.host.session = none) := by
  have hsome {connection : ConnectionHandle} {s : Session} {localUser : UserId} {p : Prop}
      (hsynchronized : h.synchronized connection = .ok (s, localUser))
      (hnone : h.session = none) : p := by
    rw [session_of_synchronized hsynchronized] at hnone
    cases hnone
  cases hdeed with
  | spared hhost hparcel =>
    exact ⟨part_eq Host.registry (fun _ => rfl) hhost, part_eq Host.blobs (fun _ => rfl) hhost,
      (part_eq Host.session (fun _ => rfl) hhost).trans⟩
  | @annotated _ s _ subject _ text _ hsynchronized hentry hfetched hhost =>
    have hregistry : outcome.host.registry =
        (h.withDirectory s (s.directory.annotate text subject)).registry :=
      part_eq Host.registry (fun _ => rfl) hhost
    have hblobs : outcome.host.blobs =
        (h.withDirectory s (s.directory.annotate text subject)).blobs :=
      part_eq Host.blobs (fun _ => rfl) hhost
    exact ⟨hregistry, hblobs, hsome hsynchronized⟩
  | joined hsynchronized hrecord haway => exact ⟨rfl, rfl, hsome hsynchronized⟩
  | sent hsynchronized => exact ⟨rfl, rfl, hsome hsynchronized⟩
  | muted hsynchronized hother hrecord => exact ⟨rfl, rfl, hsome hsynchronized⟩
  | published hsynchronized hrecord hclient => exact ⟨rfl, rfl, hsome hsynchronized⟩
  | asked hclient hparcel => exact ⟨rfl, rfl, id⟩
  | tuned hcontrols hparcel => exact ⟨rfl, rfl, id⟩
  | logged hname hwrite => exact ⟨rfl, rfl, id⟩
  | played haudio hplay => exact ⟨rfl, rfl, id⟩

lemma Deed.steady (hdeed : Deed h plugin call outcome) : h.Steady outcome.host := by
  obtain ⟨hregistry, hblobs, hnone⟩ := hdeed.others
  cases hs : h.session with
  | none => exact .of_session_eq hregistry hblobs ((hnone hs).trans hs.symm)
  | some s =>
    obtain ⟨link, directory, hs', hrevised⟩ := hdeed.revised hs
    refine ⟨hregistry, hblobs, ?_⟩
    rw [hs, hs']
    exact .some ⟨rfl, rfl, hrevised.tended⟩

/-- A host with a user whose comment is known by its hash only. -/
def bashful : Host :=
  { lonely.mapDirectory fun d => d.upsertUser ⟨2, "Ann", "1", "", [7], some 0, false⟩ with
    client := some []
    blobs := BlobStore.empty.insert [7] (Utf8.encode "hello") }

lemma reachable_bashful : bashful.Reachable :=
  have hcontrolled : Reachable { lonely with client := some [] } :=
    .synchronize 1 (.connect _ _ (.new _ _ .empty .diagnostics (some []) none .new))
  .insertBlob [7] (Utf8.encode "hello")
    (.mapDirectory (fun d => d.upsertUser ⟨2, "Ann", "1", "", [7], some 0, false⟩) hcontrolled)

end Host

/-! ## Requests -/

namespace Service

variable {s : Service}

lemma serve_revised {session : Session} (hs : s.host.session = some session) (r : PluginRequest) :
    ∃ link directory,
      (s.serve r).service.host.session =
        some { session with link := link, directory := directory } ∧
      session.directory.Revised s.host.blobs session.localUser r.call? directory := by
  obtain ⟨hservice, -⟩ | ⟨call, hcall, hservice, -⟩ := s.serve_performed r
  · rw [hservice]
    exact ⟨session.link, session.directory, hs, .kept rfl⟩
  · rw [hservice, hcall]
    exact (s.host.perform_deed r.plugin call).revised hs

lemma serveAll_steady (s : Service) (rs : List PluginRequest) :
    s.host.Steady (s.serveAll rs).2.host :=
  s.serveAll_related Host.Steady Host.Steady.refl Host.Deed.steady Host.Steady.trans rs

/-- **What calls make of the directory.**  However many requests are served in a session, there are
the users and channels that there were, with records that differ in nothing but what calls can make
of them.  Whatever is requested next then leaves the directory alone; or fills in one empty text; or
changes the comment of the local user, or the mute of another one, to what is asked for. -/
theorem serveAll_tended {session : Session} (hs : s.host.session = some session)
    (rs : List PluginRequest) :
    ∃ session', (s.serveAll rs).2.host.session = some session' ∧
      session.directory.Tended s.host.blobs session.localUser session'.directory ∧
      session'.directory.userIds = session.directory.userIds ∧
      session'.directory.channelIds = session.directory.channelIds ∧
      ∀ r : PluginRequest, ∃ session'',
        ((s.serveAll rs).2.serve r).service.host.session = some session'' ∧
        session'.directory.Revised s.host.blobs session.localUser r.call? session''.directory := by
  have hsteady := s.serveAll_steady rs
  obtain ⟨session', hs', hcontinues⟩ := hsteady.exists_session hs
  have htended := hcontinues.directory
  refine ⟨session', hs', htended, htended.userIds_eq, htended.channelIds_eq, fun r => ?_⟩
  obtain ⟨link, directory, hs'', hrevised⟩ := serve_revised hs' r
  rw [hsteady.blobs_eq, hcontinues.localUser_eq] at hrevised
  exact ⟨_, hs'', hrevised⟩

/-- A comment is asked for, and is there from then on; a mute comes and goes. -/
theorem serveAll_tended_bashful :
    let rs : List PluginRequest :=
      [⟨.plugin, 3, .entry .v1_0 (.plain (.onSession 0 (.getUserComment 2))) ⟨true, false⟩⟩,
        ⟨.host, 3, .method (.onSession 0 (.requestLocalMute 2 true))⟩]
    let after := ((⟨.bashful, true⟩ : Service).serveAll rs).2
    ∃ session', after.host.session = some session' ∧
      session'.directory.user? 2 = some ⟨2, "Ann", "1", "hello", [7], some 0, true⟩ ∧
      session'.directory.userIds = [1, 2] := by
  intro rs after
  have hs : (⟨.bashful, true⟩ : Service).host.session = some _ := rfl
  obtain ⟨session', hs', -, husers, -⟩ := serveAll_tended hs rs
  refine ⟨session', hs', ?_, husers⟩
  cases hs'
  rfl

end Service

end PluginHost
