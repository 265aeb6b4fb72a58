/-
# A text is fetched while records are replaced

To give the comment of a user or the description of a channel, the host looks the record up and
gets a copy of it, fetches the text by the hash in the copy if the record has no more than that,
notes the text in the record, and lends it.  Each look into the directory and each change of it is
made at once, but in between the network may enter new records.  An `Inquiry` is the state of all
this, and a list of `Inquiry.Event`s one order in which it can happen.

The copy is what matters.  The text is fetched by the hash that was read first, and is noted in
whatever record is there by then: nobody looks whether that record has been replaced
(`Inquiry.directory_run`).  As long as no new record of the same user or channel comes in between
the two, the record stays the one that the server gave, but for the text that its own hash stands
for.  When one does come in, it gets the text that belongs to the old one.
-/
import PluginHost.Proofs.Call.Comment
import PluginHost.Proofs.Directory.Entry

namespace PluginHost

open Directory (Subject Entry)

/-- The call that gives the comment of a user or the description of a channel. -/
def Directory.Subject.call : Subject → SessionCall
  | .user id => .getUserComment id
  | .channel id => .getChannelDescription id

/-- The refusal of the call when there is no record. -/
def Directory.Subject.missing : Subject → ErrorCode
  | .user _ => .userNotFound
  | .channel _ => .channelNotFound

/-- In `e'` the text is that of `e`, or the one that the hash of `e` stands for; all else is that
of `e`. -/
def Directory.Entry.Faithful (blobs : BlobStore) (e e' : Entry) : Prop :=
  e' = e ∨ ∃ text, blobs.fetched? e.text e.hash = some text ∧ e' = e.withText text

/-- How far a call has come. -/
inductive Inquiry.Stage where
  /-- It has not looked at anything. -/
  | begun
  /-- It has a copy of the record. -/
  | found (entry : Entry)
  /-- It has fetched a text, and is about to note it in the record. -/
  | fetched (text : String)
  /-- It knows the text, and is about to lend it. -/
  | told (text : String)
  /-- It has ended. -/
  | done (result : Option (CallResult Reply))

/-- The host, and a call on its way that asks for a comment or a description. -/
structure Inquiry where
  /-- The host. -/
  host : Host
  /-- How far the call has come. -/
  stage : Inquiry.Stage

namespace Inquiry

/-- One step of one of the parties. -/
inductive Event where
  /-- The call goes on. -/
  | proceed
  /-- The network enters a record. -/
  | upsert (entry : Entry)
deriving DecidableEq, Repr

/-- A call that has just begun. -/
def start (h : Host) : Inquiry := ⟨h, .begun⟩

section Steps

variable (plugin : PluginId) (connection : ConnectionHandle) (subject : Subject)

/-- The call goes on. -/
def proceed (x : Inquiry) : Inquiry :=
  match x.stage with
  | .begun =>
    match x.host.verifyPlugin plugin with
    | .error code => { x with stage := .done (some (.error code)) }
    | .ok () =>
      match x.host.synchronized connection with
      | .error code => { x with stage := .done (some (.error code)) }
      | .ok (session, _) =>
        match session.directory.record? subject with
        | none => { x with stage := .done (some (.error subject.missing)) }
        | some entry => { x with stage := .found entry }
  | .found entry =>
    match Host.resolve x.host.blobs entry.text entry.hash with
    | .error code => { x with stage := .done (some (.error code)) }
    | .ok (.known text) => { x with stage := .told text }
    | .ok (.fetched text) => { x with stage := .fetched text }
  | .fetched text => ⟨x.host.mapDirectory (·.annotate text subject), .told text⟩
  | .told text =>
    let outcome := x.host.lend plugin subject.call.name (.ofText text)
    ⟨outcome.host, .done outcome.result⟩
  | .done _ => x

/-- One step. -/
def step (x : Inquiry) : Event → Inquiry
  | .proceed => x.proceed plugin connection subject
  | .upsert entry => { x with host := x.host.mapDirectory (·.upsert entry) }

/-- An order of steps. -/
def run (x : Inquiry) (events : List Event) : Inquiry :=
  events.foldl (step plugin connection subject) x

end Steps

/-- The users and channels of the session. -/
def directory? (x : Inquiry) : Option Directory := x.host.session.map Session.directory

/-! ## When records come in -/

/-- The records that come in. -/
def upserts : List Event → List Entry
  | [] => []
  | .proceed :: events => upserts events
  | .upsert entry :: events => entry :: upserts events

/-- How often the call goes on. -/
def moves (events : List Event) : Nat := events.count .proceed

/-- The records that come in before the call goes on for the time with the number `n`, counted from
zero. -/
def ahead : Nat → List Event → List Entry
  | _, [] => []
  | n, .upsert entry :: events => entry :: ahead n events
  | 0, .proceed :: _ => []
  | n + 1, .proceed :: events => ahead n events

/-- The records that come in after that. -/
def behind : Nat → List Event → List Entry
  | _, [] => []
  | n, .upsert _ :: events => behind n events
  | 0, .proceed :: events => upserts events
  | n + 1, .proceed :: events => behind n events

/-- The records that come in after the call has read the record and before it notes the text. -/
def amid (events : List Event) : List Entry := (ahead 2 events).drop (ahead 0 events).length

lemma ahead_append_behind (n : Nat) (events : List Event) :
    ahead n events ++ behind n events = upserts events := by
  induction events generalizing n with
  | nil => cases n <;> rfl
  | cons event events ih =>
    cases event with
    | upsert entry => cases n <;> exact congrArg (entry :: ·) (ih _)
    | proceed =>
      cases n with
      | zero => rfl
      | succ n => exact ih n

lemma ahead_isPrefix_succ (n : Nat) (events : List Event) :
    ahead n events <+: ahead (n + 1) events := by
  induction events generalizing n with
  | nil => cases n <;> exact List.prefix_rfl
  | cons event events ih =>
    cases event with
    | upsert entry => cases n <;> exact List.prefix_cons_inj entry |>.2 (ih _)
    | proceed =>
      cases n with
      | zero => exact List.nil_prefix
      | succ n => exact ih n

lemma ahead_append_amid (events : List Event) : ahead 0 events ++ amid events = ahead 2 events :=
  List.prefix_iff_eq_append.1 ((ahead_isPrefix_succ 0 events).trans (ahead_isPrefix_succ 1 events))

/-! ## What comes of the directory -/

/-- The text that the call fetches, if it does.  It goes by the record that it reads. -/
def fetched? (h : Host) (plugin : PluginId) (connection : ConnectionHandle) (subject : Subject)
    (d : Directory) (events : List Event) : Option String :=
  if (h.verifyPlugin plugin).isOk && (h.synchronized connection).isOk then
    ((d.upsertAll (ahead 0 events)).record? subject).bind fun entry =>
      h.blobs.fetched? entry.text entry.hash
  else none

/-- The directory when all records have come in, and the text that was fetched, if there is one,
has been noted as the call went on for the time with the number `n`. -/
def noted (text? : Option String) (subject : Subject) (n : Nat) (d : Directory)
    (events : List Event) : Directory :=
  match text? with
  | none => d.upsertAll (upserts events)
  | some text =>
    if n < moves events then
      ((d.upsertAll (ahead n events)).annotate text subject).upsertAll (behind n events)
    else d.upsertAll (upserts events)

section Noted

variable (text? : Option String) (subject : Subject) (n : Nat) (d : Directory)
  (events : List Event)

lemma noted_nil : noted text? subject n d [] = d := by
  cases text? with
  | none => rfl
  | some text => rfl

lemma noted_upsert (entry : Entry) :
    noted text? subject n d (.upsert entry :: events) =
      noted text? subject n (d.upsert entry) events := by
  have hmoves : moves (.upsert entry :: events) = moves events := by simp [moves]
  cases text? with
  | none => rfl
  | some text =>
    simp only [noted, hmoves]
    cases n <;> rfl

lemma noted_proceed_succ :
    noted text? subject (n + 1) d (.proceed :: events) = noted text? subject n d events := by
  have hmoves : moves (.proceed :: events) = moves events + 1 := by simp [moves]
  cases text? with
  | none => rfl
  | some text =>
    simp only [noted, hmoves, Nat.add_lt_add_iff_right]
    rfl

lemma noted_proceed_zero (text : String) :
    noted (some text) subject 0 d (.proceed :: events) =
      noted none subject 0 (d.annotate text subject) events := by
  have hmoves : moves (.proceed :: events) = moves events + 1 := by simp [moves]
  simp only [noted, hmoves, Nat.zero_lt_succ, if_true]
  rfl

end Noted

section Run

variable {plugin : PluginId} {connection : ConnectionHandle} {subject : Subject} {x : Inquiry}
  {d : Directory}

lemma directory?_mapDirectory {h : Host} {stage stage' : Stage}
    (hd : directory? ⟨h, stage⟩ = some d) (change : Directory → Directory) :
    directory? ⟨h.mapDirectory change, stage'⟩ = some (change d) := by
  obtain ⟨session, hsession, rfl⟩ := Option.map_eq_some_iff.1 hd
  replace hsession : h.session = some session := hsession
  simp only [directory?, Host.mapDirectory, hsession, Option.map_some]

lemma directory?_lend {h : Host} {stage stage' : Stage} (name : String) (contents : Contents)
    (hd : directory? ⟨h, stage⟩ = some d) :
    directory? ⟨(h.lend plugin name contents).host, stage'⟩ = some d := by
  unfold Host.lend
  split <;> exact hd

lemma run_cons (x : Inquiry) (event : Event) (events : List Event) :
    x.run plugin connection subject (event :: events) =
      (x.step plugin connection subject event).run plugin connection subject events := rfl

/-- A call that has ended changes nothing any more. -/
lemma directory?_run_of_done (hd : x.directory? = some d)
    {result : Option (CallResult Reply)} (hstage : x.stage = .done result) (events : List Event) :
    (x.run plugin connection subject events).directory? =
      some (noted none subject 0 d events) := by
  induction events generalizing x d with
  | nil => exact hd
  | cons event events ih =>
    rw [run_cons]
    cases event with
    | upsert entry => exact ih (directory?_mapDirectory hd _) hstage
    | proceed =>
      have hsame : x.step plugin connection subject .proceed = x := by
        rw [step, proceed, hstage]
      rw [hsame]
      exact ih hd hstage

lemma directory?_run_of_told (hd : x.directory? = some d) {text : String}
    (hstage : x.stage = .told text) (events : List Event) :
    (x.run plugin connection subject events).directory? =
      some (noted none subject 0 d events) := by
  induction events generalizing x d with
  | nil => exact hd
  | cons event events ih =>
    rw [run_cons]
    cases event with
    | upsert entry => exact ih (directory?_mapDirectory hd _) hstage
    | proceed =>
      have hlend : x.step plugin connection subject .proceed =
          ⟨(x.host.lend plugin subject.call.name (.ofText text)).host,
            .done (x.host.lend plugin subject.call.name (.ofText text)).result⟩ := by
        rw [step, proceed, hstage]
      rw [hlend]
      exact directory?_run_of_done (directory?_lend _ _ hd) rfl events

/-- A fetched text is noted when the call goes on. -/
lemma directory?_run_of_fetched (hd : x.directory? = some d) {text : String}
    (hstage : x.stage = .fetched text) (events : List Event) :
    (x.run plugin connection subject events).directory? =
      some (noted (some text) subject 0 d events) := by
  induction events generalizing x d with
  | nil => exact hd
  | cons event events ih =>
    rw [run_cons]
    cases event with
    | upsert entry =>
      rw [noted_upsert]
      exact ih (directory?_mapDirectory hd _) hstage
    | proceed =>
      have hnote : x.step plugin connection subject .proceed =
          ⟨x.host.mapDirectory (·.annotate text subject), .told text⟩ := by
        rw [step, proceed, hstage]
      rw [hnote, noted_proceed_zero]
      exact directory?_run_of_told (directory?_mapDirectory hd _) rfl events

/-- The text is fetched by the hash in the copy of the record. -/
lemma directory?_run_of_found (hd : x.directory? = some d) {entry : Entry}
    (hstage : x.stage = .found entry) (events : List Event) :
    (x.run plugin connection subject events).directory? =
      some (noted (x.host.blobs.fetched? entry.text entry.hash) subject 1 d events) := by
  induction events generalizing x d with
  | nil => rw [noted_nil]; exact hd
  | cons event events ih =>
    rw [run_cons]
    cases event with
    | upsert entry' =>
      rw [noted_upsert]
      exact ih (directory?_mapDirectory hd _) hstage
    | proceed =>
      rw [noted_proceed_succ]
      have hresolve := Host.resolve_eq x.host.blobs entry.text entry.hash
      rw [step, proceed, hstage]
      dsimp only
      rw [hresolve, BlobStore.fetched?]
      split_ifs with hknown
      · exact directory?_run_of_told (x := ⟨x.host, .told entry.text⟩) hd rfl events
      · cases x.host.blobs.text? entry.hash with
        | none => exact directory?_run_of_done (x := ⟨x.host, .done _⟩) hd rfl events
        | some text => exact directory?_run_of_fetched (x := ⟨x.host, .fetched text⟩) hd rfl events

end Run

lemma isOk_synchronized_mapDirectory (h : Host) (connection : ConnectionHandle)
    (change : Directory → Directory) :
    ((h.mapDirectory change).synchronized connection).isOk =
      (h.synchronized connection).isOk := by
  simp only [Host.synchronized, Host.connection, Host.mapDirectory]
  cases h.session with
  | none => rfl
  | some session =>
    dsimp only [Option.map_some]
    split_ifs
    · dsimp only
      cases session.localUser <;> rfl
    · rfl

lemma directory?_run_start {h : Host} {s : Session} (hsession : h.session = some s)
    (plugin : PluginId) (connection : ConnectionHandle) (subject : Subject)
    (events : List Event) :
    ((start h).run plugin connection subject events).directory? =
      some (noted (fetched? h plugin connection subject s.directory events) subject 2
        s.directory events) := by
  have hd : (start h).directory? = some s.directory :=
    congrArg (Option.map Session.directory) hsession
  induction events generalizing h s with
  | nil =>
    rw [noted_nil]
    exact hd
  | cons event events ih =>
    rw [run_cons]
    cases event with
    | upsert entry =>
      have hsession' : (h.mapDirectory (·.upsert entry)).session =
          some { s with directory := s.directory.upsert entry } := by
        rw [Host.mapDirectory, hsession]
        rfl
      have hfetched : fetched? h plugin connection subject s.directory (.upsert entry :: events) =
          fetched? (h.mapDirectory (·.upsert entry)) plugin connection subject
            (s.directory.upsert entry) events := by
        rw [fetched?, fetched?, isOk_synchronized_mapDirectory]
        rfl
      rw [noted_upsert, hfetched]
      exact ih hsession' (directory?_mapDirectory hd _)
    | proceed =>
      rw [noted_proceed_succ, fetched?, step, proceed]
      dsimp only [start]
      cases hverify : h.verifyPlugin plugin with
      | error code => exact directory?_run_of_done (x := ⟨h, .done _⟩) hd rfl events
      | ok =>
        cases hsynchronized : h.synchronized connection with
        | error code => exact directory?_run_of_done (x := ⟨h, .done _⟩) hd rfl events
        | ok found =>
          obtain ⟨session, localUser⟩ := found
          obtain rfl : s = session := by
            rw [Host.session_of_synchronized hsynchronized] at hsession
            exact (Option.some.inj hsession).symm
          have hread : s.directory.upsertAll (ahead 0 (.proceed :: events)) = s.directory := rfl
          simp only [Except.isOk, Except.toBool, Bool.and_self, if_true, hread]
          cases s.directory.record? subject with
          | none => exact directory?_run_of_done (x := ⟨h, .done _⟩) hd rfl events
          | some entry => exact directory?_run_of_found (x := ⟨h, .found entry⟩) hd rfl events

/-! ## The call by itself -/

/-- Both calls find their record, resolve its text, note it if it was fetched, and lend it. -/
lemma performOnSession_call (h : Host) (plugin : PluginId) (s : Session) (localUser : UserId)
    (subject : Subject) :
    h.performOnSession plugin s localUser subject.call =
      match s.directory.record? subject with
      | none => h.refuse subject.missing
      | some entry =>
        match Host.resolve h.blobs entry.text entry.hash with
        | .error code => h.refuse code
        | .ok (.known text) => h.lend plugin subject.call.name (.ofText text)
        | .ok (.fetched text) =>
          (h.withDirectory s (s.directory.annotate text subject)).lend plugin subject.call.name
            (.ofText text) := by
  cases subject with
  | user id =>
    simp only [Directory.Subject.call, Host.performOnSession, Directory.record?]
    cases s.directory.user? id <;> rfl
  | channel id =>
    simp only [Directory.Subject.call, Host.performOnSession, Directory.record?]
    cases s.directory.channel? id <;> rfl

section Alone

variable (plugin : PluginId) (connection : ConnectionHandle) (subject : Subject) (h : Host)

lemma run_done_alone (result : Option (CallResult Reply)) (n : Nat) :
    run plugin connection subject ⟨h, .done result⟩ (List.replicate n .proceed) =
      ⟨h, .done result⟩ := by
  induction n with
  | zero => rfl
  | succ n ih =>
    rw [List.replicate_succ, run_cons]
    exact ih

lemma run_told_alone (text : String) (n : Nat) :
    run plugin connection subject ⟨h, .told text⟩ (List.replicate (n + 1) .proceed) =
      ⟨(h.lend plugin subject.call.name (.ofText text)).host,
        .done (h.lend plugin subject.call.name (.ofText text)).result⟩ := by
  rw [List.replicate_succ, run_cons]
  exact run_done_alone plugin connection subject _ _ n

/-- A call that goes on to its end while nothing comes in is performed at once. -/
lemma run_alone :
    (start h).run plugin connection subject (List.replicate 4 .proceed) =
      ⟨(h.perform plugin (.onSession connection subject.call)).host,
        .done (h.perform plugin (.onSession connection subject.call)).result⟩ := by
  have hopen : Host.isOpen (.onSession connection subject.call) = false := rfl
  rw [List.replicate_succ, run_cons, Host.perform, hopen, if_neg Bool.false_ne_true, step, proceed]
  dsimp only [start]
  cases hverify : h.verifyPlugin plugin with
  | error code => exact run_done_alone plugin connection subject h _ 3
  | ok =>
    dsimp only [Host.performAccepted]
    cases hsynchronized : h.synchronized connection with
    | error code => exact run_done_alone plugin connection subject h _ 3
    | ok found =>
      obtain ⟨s, localUser⟩ := found
      have hsession := Host.session_of_synchronized hsynchronized
      dsimp only
      rw [performOnSession_call]
      cases s.directory.record? subject with
      | none => exact run_done_alone plugin connection subject h _ 3
      | some entry =>
        dsimp only
        rw [List.replicate_succ, run_cons, step, proceed]
        dsimp only
        cases Host.resolve h.blobs entry.text entry.hash with
        | error code => exact run_done_alone plugin connection subject h _ 2
        | ok resolved =>
          cases resolved with
          | known text => exact run_told_alone plugin connection subject h text 1
          | fetched text =>
            have hnote : h.mapDirectory (·.annotate text subject) =
                h.withDirectory s (s.directory.annotate text subject) := by
              rw [Host.mapDirectory, hsession]
              rfl
            dsimp only
            rw [← hnote, List.replicate_succ, run_cons]
            exact run_told_alone plugin connection subject _ text 0

end Alone

/-! ## What remains of a record -/

variable {h : Host} {plugin : PluginId} {connection : ConnectionHandle} {subject : Subject}
  {d : Directory} {events : List Event}

lemma record?_noted_of_ne (text? : Option String) (n : Nat) {other : Subject}
    (hne : other ≠ subject) :
    (noted text? subject n d events).record? other =
      (d.upsertAll (upserts events)).record? other := by
  cases text? with
  | none => rfl
  | some text =>
    simp only [noted]
    split
    · rw [Directory.record?_upsertAll, Directory.record?_annotate, if_neg (Ne.symm hne),
        ← Directory.record?_upsertAll, ← Directory.upsertAll_append, ahead_append_behind]
    · rfl

/-- If no new record comes in amid the call, the text is noted in the record that was read. -/
lemma faithful_noted (hamid : ∀ entry ∈ amid events, entry.subject ≠ subject) {entry : Entry}
    (hentry : (d.upsertAll (upserts events)).record? subject = some entry) :
    ∃ entry', (noted (fetched? h plugin connection subject d events) subject 2 d events).record?
        subject = some entry' ∧ entry.Faithful h.blobs entry' := by
  have hkept : ∃ entry', (d.upsertAll (upserts events)).record? subject = some entry' ∧
      entry.Faithful h.blobs entry' := ⟨entry, hentry, .inl rfl⟩
  cases hfetched : fetched? h plugin connection subject d events with
  | none => exact hkept
  | some text =>
    simp only [noted]
    split
    · rw [← ahead_append_behind 2, Directory.upsertAll_append,
        Directory.record?_upsertAll] at hentry
      rw [Directory.record?_upsertAll, Directory.record?_annotate, if_pos rfl]
      cases hlater : latest Entry.subject subject (behind 2 events) with
      | some later =>
        rw [hlater] at hentry
        exact ⟨entry, hentry, .inl rfl⟩
      | none =>
        rw [hlater, Option.none_or] at hentry
        rw [Option.none_or, hentry]
        refine ⟨entry.withText text, rfl, .inr ⟨text, ?_, rfl⟩⟩
        -- the record that is there is the one that was read
        rw [← ahead_append_amid, Directory.upsertAll_append, Directory.record?_upsertAll,
          latest_eq_none_iff.2 hamid, Option.none_or] at hentry
        rw [fetched?, hentry] at hfetched
        split at hfetched
        · exact hfetched
        · cases hfetched
    · exact hkept

/-- **What comes of the directory when records come in during the call.**  All records are those
that came in last, but for one: if the call has fetched a text, by the hash in the record that it
read, it notes this text in the record that is there when it comes to that.  If no new record of
the same user or channel has come in amid the call, then the record that came in last is left as it
was, but for the text that its own hash stands for. -/
theorem directory_run {s : Session} (hsession : h.session = some s) (plugin : PluginId)
    (connection : ConnectionHandle) (subject : Subject) (events : List Event) :
    let x := (start h).run plugin connection subject events
    let d' := noted (fetched? h plugin connection subject s.directory events) subject 2 s.directory
      events
    x.directory? = some d' ∧
      (∀ other, other ≠ subject →
        d'.record? other = (s.directory.upsertAll (upserts events)).record? other) ∧
      ((∀ entry ∈ amid events, entry.subject ≠ subject) →
        ∀ entry, (s.directory.upsertAll (upserts events)).record? subject = some entry →
          ∃ entry', d'.record? subject = some entry' ∧ entry.Faithful h.blobs entry') := by
  intro x d'
  refine ⟨directory?_run_start hsession plugin connection subject events, ?_, ?_⟩
  · intro other hne
    exact record?_noted_of_ne _ 2 hne
  · intro hamid entry hentry
    exact faithful_noted hamid hentry

/-- The record of a user whose comment has the hash `hash` and is not known. -/
def hinted (hash : UInt8) : Entry := .user ⟨1, "Me", "0", "", [hash], some 0, false⟩

/-- A host that knows two texts, and of its user only the hash of the first one. -/
def hintedHost : Host :=
  { Host.lonely.mapDirectory fun d => d.upsert (hinted 1) with
    blobs := (BlobStore.empty.insert [1] (Utf8.encode "old")).insert [2] (Utf8.encode "new") }

/-- A new record comes in before the call reads it, and gets its own text. -/
theorem directory_run_early :
    let events : List Event := .upsert (hinted 2) :: List.replicate 4 .proceed
    ∃ d', ((start hintedHost).run 3 0 (.user 1) events).directory? = some d' ∧
      d'.record? (.user 1) = some ((hinted 2).withText "new") ∧
      (hinted 2).Faithful hintedHost.blobs ((hinted 2).withText "new") := by
  intro events
  obtain ⟨hdirectory, -, hfaithful⟩ :=
    directory_run (h := hintedHost) rfl 3 0 (.user 1) events
  have hamid : ∀ entry ∈ amid events, entry.subject ≠ .user 1 := by
    intro entry hentry
    cases hentry
  obtain ⟨entry', hentry', hown⟩ := hfaithful hamid (hinted 2) rfl
  obtain rfl : (hinted 2).withText "new" = entry' := Option.some.inj hentry'
  exact ⟨_, hdirectory, hentry', hown⟩

/-- A new record comes in when the old one has been read, and gets the text of the old one. -/
theorem directory_run_amid :
    let events : List Event := [.proceed, .upsert (hinted 2), .proceed, .proceed, .proceed]
    let x := (start hintedHost).run 3 0 (.user 1) events
    x.directory?.bind (·.record? (.user 1)) = some ((hinted 2).withText "old") ∧
      hintedHost.blobs.fetched? (hinted 2).text (hinted 2).hash = some "new" ∧
      ¬ (hinted 2).Faithful hintedHost.blobs ((hinted 2).withText "old") := by
  intro events x
  have hnew : hintedHost.blobs.fetched? (hinted 2).text (hinted 2).hash = some "new" := rfl
  refine ⟨rfl, hnew, ?_⟩
  rintro (hsame | ⟨text, htext, hsame⟩)
  · exact absurd hsame (by decide)
  · rw [hnew] at htext
    cases htext
    exact absurd hsame (by decide)

end Inquiry

end PluginHost
