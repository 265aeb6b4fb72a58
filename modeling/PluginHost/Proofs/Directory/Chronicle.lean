/-
# What a directory tells of its history

A directory begins without entries.  Records of users and channels are entered, in the place of
earlier ones, and single fields of records are changed (`Directory.Change`).  What is known about
somebody then is the record that was entered last, with the changes since (`Entry.after`); all other
views, the listings, the search for a name and the users in a channel, are read off the records.

The main statement is that after any changes every view tells just that
(`Directory.run_chronicled`).
-/
import PluginHost.Proofs.Directory.Entry

namespace PluginHost

namespace Directory

/-- Something done to a directory. -/
inductive Change where
  /-- A record is entered. -/
  | upsert (entry : Entry)
  /-- A user is kept from being heard, or not any more. -/
  | setLocalMute (user : UserId) (muted : Bool)
  /-- The comment of a user is noted. -/
  | setUserComment (user : UserId) (comment : String)
  /-- The description of a channel is noted. -/
  | setChannelDescription (channel : ChannelId) (description : String)
deriving DecidableEq, Repr

namespace Change

/-- Whose record it is about. -/
def subject : Change → Subject
  | upsert entry => entry.subject
  | setLocalMute user _ => .user user
  | setUserComment user _ => .user user
  | setChannelDescription channel _ => .channel channel

/-- Whether a whole record is entered. -/
def isUpsert : Change → Bool
  | upsert _ => true
  | _ => false

/-- What becomes of the record that it is about. -/
def revise : Change → Entry → Entry
  | upsert entry, _ => entry
  | setLocalMute _ muted, .user record => .user { record with localMute := muted }
  | setUserComment _ comment, .user record => .user { record with comment := comment }
  | setChannelDescription _ description, .channel record =>
    .channel { record with description := description }
  | _, entry => entry

/-- The record afterwards, if there is one: only a record that is entered need not be there. -/
def outcome : Change → Option Entry → Option Entry
  | upsert entry, _ => some entry
  | change, held? => held?.map change.revise

end Change

/-- The record after later changes, as far as they are about the same user or channel. -/
def Entry.after (entry : Entry) (changes : List Change) : Entry :=
  changes.foldl (fun e change => if change.subject = entry.subject then change.revise e else e)
    entry

/-- Changes a directory; tells whether there is a record for it.  A record that is entered is
always there. -/
def change (d : Directory) : Change → Bool × Directory
  | .upsert entry => (true, d.upsert entry)
  | .setLocalMute user muted => d.setLocalMute user muted
  | .setUserComment user comment => d.setUserComment user comment
  | .setChannelDescription channel description => d.setChannelDescription channel description

/-- The directory after changes, one after the other. -/
def run (d : Directory) (changes : List Change) : Directory :=
  changes.foldl (fun d change => (d.change change).2) d

variable {d : Directory} {subject : Subject}

/-! ## One change -/

section Update

variable (d) {revise : Entry → Entry}

lemma record?_updateUser {f : UserRecord → UserRecord}
    (hrevise : ∀ record, revise (.user record) = .user (f record)) (id : UserId)
    (subject : Subject) : (d.updateUser id f).2.record? subject =
      if .user id = subject then (d.record? subject).map revise else d.record? subject := by
  unfold updateUser
  rcases hrecord : d.user? id with _ | record
  · split_ifs with hsubject
    · simp only [← hsubject, record?, hrecord, Option.map_none]
    · rfl
  · cases subject with
    | user other =>
      simp only [record?, user?, getElem?_insert_eq, Subject.user.injEq, @eq_comm _ id other]
      split_ifs with hother
      · replace hrecord : d.users[id]? = some record := hrecord
        rw [hother, hrecord, Option.map_some, Option.map_some, Option.map_some, hrevise]
      · rfl
    | channel other => rfl

lemma record?_updateChannel {f : ChannelRecord → ChannelRecord}
    (hrevise : ∀ record, revise (.channel record) = .channel (f record)) (id : ChannelId)
    (subject : Subject) : (d.updateChannel id f).2.record? subject =
      if .channel id = subject then (d.record? subject).map revise else d.record? subject := by
  unfold updateChannel
  rcases hrecord : d.channel? id with _ | record
  · split_ifs with hsubject
    · simp only [← hsubject, record?, hrecord, Option.map_none]
    · rfl
  · cases subject with
    | user other => rfl
    | channel other =>
      simp only [record?, channel?, getElem?_insert_eq, Subject.channel.injEq,
        @eq_comm _ id other]
      split_ifs with hother
      · replace hrecord : d.channels[id]? = some record := hrecord
        rw [hother, hrecord, Option.map_some, Option.map_some, Option.map_some, hrevise]
      · rfl

/-- Where nobody is, nothing is changed. -/
lemma updateUser_eq (id : UserId) (f : UserRecord → UserRecord) :
    (d.updateUser id f).1 = (d.record? (.user id)).isSome ∧
      ((d.updateUser id f).1 = false → (d.updateUser id f).2 = d) := by
  rw [record?, Option.isSome_map, updateUser]
  rcases d.user? id with _ | record
  · exact ⟨rfl, fun _ => rfl⟩
  · exact ⟨rfl, fun hfalse => by cases hfalse⟩

lemma updateChannel_eq (id : ChannelId) (f : ChannelRecord → ChannelRecord) :
    (d.updateChannel id f).1 = (d.record? (.channel id)).isSome ∧
      ((d.updateChannel id f).1 = false → (d.updateChannel id f).2 = d) := by
  rw [record?, Option.isSome_map, updateChannel]
  rcases d.channel? id with _ | record
  · exact ⟨rfl, fun _ => rfl⟩
  · exact ⟨rfl, fun hfalse => by cases hfalse⟩

end Update

/-- Only the record that a change is about can be another one afterwards. -/
lemma record?_change (d : Directory) (change : Change) (subject : Subject) :
    (d.change change).2.record? subject =
      if change.subject = subject then change.outcome (d.record? subject)
      else d.record? subject := by
  cases change with
  | upsert entry => exact record?_upsert d entry subject
  | setLocalMute user muted => exact d.record?_updateUser (fun _ => rfl) user subject
  | setUserComment user comment => exact d.record?_updateUser (fun _ => rfl) user subject
  | setChannelDescription channel description =>
    exact d.record?_updateChannel (fun _ => rfl) channel subject

/-- A change of a field is accepted if there is a record, and otherwise changes nothing. -/
lemma change_eq (d : Directory) {change : Change} (hchange : change.isUpsert = false) :
    (d.change change).1 = (d.record? change.subject).isSome ∧
      ((d.change change).1 = false → (d.change change).2 = d) := by
  cases change with
  | upsert entry => cases hchange
  | setLocalMute user muted => exact d.updateUser_eq user _
  | setUserComment user comment => exact d.updateUser_eq user _
  | setChannelDescription channel description => exact d.updateChannel_eq channel _

/-! ## Many changes -/

lemma subject_revise {change : Change} {entry : Entry} (hsubject : change.subject = entry.subject) :
    (change.revise entry).subject = entry.subject := by
  cases change with
  | upsert entry' => exact hsubject
  | setLocalMute | setUserComment | setChannelDescription => cases entry <;> rfl

lemma after_cons (entry : Entry) (change : Change) (changes : List Change) :
    entry.after (change :: changes) =
      (if change.subject = entry.subject then change.revise entry else entry).after changes := by
  rw [Entry.after, List.foldl_cons, Entry.after]
  split_ifs with hsubject
  · rw [subject_revise hsubject]
  · rfl

lemma run_append (d : Directory) (changes changes' : List Change) :
    d.run (changes ++ changes') = (d.run changes).run changes' := List.foldl_append

/-- A record that is there stays, but for what is changed in it. -/
lemma record?_run_of_some {entry : Entry} (hentry : d.record? entry.subject = some entry)
    (changes : List Change) :
    (d.run changes).record? entry.subject = some (entry.after changes) := by
  induction changes generalizing d entry with
  | nil => exact hentry
  | cons change changes ih =>
    rw [after_cons]
    have hnext := d.record?_change change entry.subject
    split_ifs at hnext ⊢ with hsubject
    · rw [hentry] at hnext
      have houtcome : change.outcome (some entry) = some (change.revise entry) := by
        cases change <;> rfl
      rw [houtcome] at hnext
      rw [← subject_revise hsubject] at hnext ⊢
      exact ih hnext
    · exact ih (hnext.trans hentry)

/-- There are the records that were there and those that were entered. -/
lemma record?_run_ne_none (d : Directory) (changes : List Change) (subject : Subject) :
    (d.run changes).record? subject ≠ none ↔
      d.record? subject ≠ none ∨ ∃ entry, .upsert entry ∈ changes ∧ entry.subject = subject := by
  induction changes generalizing d with
  | nil => simp [run]
  | cons change changes ih =>
    have hone : (d.change change).2.record? subject ≠ none ↔
        d.record? subject ≠ none ∨ ∃ entry, .upsert entry = change ∧ entry.subject = subject := by
      rw [record?_change]
      cases change with
      | upsert entry =>
        simp only [Change.subject, Change.outcome, Change.upsert.injEq, exists_eq_left]
        split_ifs with hsubject <;> simp [hsubject]
      | setLocalMute | setUserComment | setChannelDescription =>
        split_ifs <;> simp [Change.outcome]
    have hrun : d.run (change :: changes) = (d.change change).2.run changes := rfl
    rw [hrun, ih, hone, or_assoc]
    simp only [List.mem_cons, or_and_right, exists_or]

/-! ## Views -/

/-- Every record is under the number that it carries. -/
def Placed (d : Directory) : Prop :=
  ∀ subject entry, d.record? subject = some entry → entry.subject = subject

lemma Placed.keyed (hplaced : d.Placed) : d.Keyed := by
  intro id record hrecord
  have hentry : d.record? (.user id) = some (.user record) := by rw [record?, hrecord]; rfl
  exact Subject.user.inj (hplaced _ _ hentry)

lemma Placed.channel (hplaced : d.Placed) (id : ChannelId) (record : ChannelRecord)
    (hrecord : d.channels[id]? = some record) : record.id = id := by
  have hentry : d.record? (.channel id) = some (.channel record) := by
    rw [record?, channel?, hrecord]
    rfl
  exact Subject.channel.inj (hplaced _ _ hentry)

lemma Placed.change (hplaced : d.Placed) (change : Change) : (d.change change).2.Placed := by
  intro subject entry hentry
  rw [record?_change] at hentry
  split_ifs at hentry with hsubject
  · cases change with
    | upsert entry' =>
      cases hentry
      exact hsubject
    | setLocalMute | setUserComment | setChannelDescription =>
      obtain ⟨old, hold, rfl⟩ := Option.map_eq_some_iff.1 hentry
      have hplace := hplaced subject old hold
      rw [subject_revise (hsubject.trans hplace.symm), hplace]
  · exact hplaced subject entry hentry

lemma Placed.run (hplaced : d.Placed) (changes : List Change) : (d.run changes).Placed := by
  induction changes generalizing d with
  | nil => exact hplaced
  | cons change changes ih => exact ih (hplaced.change change)

lemma record?_empty (subject : Subject) : empty.record? subject = none := by
  cases subject <;> simp [record?, user?, channel?, empty]

lemma mem_userIds_iff {id : UserId} : id ∈ d.userIds ↔ d.record? (.user id) ≠ none := by
  rw [userIds, mem_keys_iff, record?, Ne, Option.map_eq_none_iff, ← Ne,
    Option.isSome_iff_ne_none]
  rfl

lemma mem_channelIds_iff {id : ChannelId} :
    id ∈ d.channelIds ↔ d.record? (.channel id) ≠ none := by
  rw [channelIds, mem_keys_iff, record?, Ne, Option.map_eq_none_iff, ← Ne,
    Option.isSome_iff_ne_none]
  rfl

lemma usersIn_ne_none_iff {channel : ChannelId} :
    d.usersIn channel ≠ none ↔ channel ∈ d.channelIds := by
  rw [usersIn, channelIds, mem_keys_iff, Std.TreeMap.contains_eq_isSome_getElem?]
  split_ifs with hchannel <;> simp [hchannel]

/-- The users in a channel are listed in ascending order. -/
lemma Keyed.of_usersIn (hkeyed : d.Keyed) {channel : ChannelId} {members : List UserId}
    (hmembers : d.usersIn channel = some members) :
    members.Pairwise (· < ·) ∧ ∀ id, id ∈ members ↔
      ∃ record, d.user? id = some record ∧ record.channel = some channel := by
  have hsome : d.usersIn channel ≠ none := by rw [hmembers]; exact Option.some_ne_none _
  rw [usersIn_ne_none_iff, channelIds, mem_keys_iff, Option.isSome_iff_exists] at hsome
  obtain ⟨record, hrecord⟩ := hsome
  rw [usersIn_eq hkeyed hrecord, Option.some.injEq] at hmembers
  subst hmembers
  refine ⟨keys_pairwise.filter _, fun id => ?_⟩
  rw [List.mem_filter, userIds, mem_keys_iff, Option.any_eq_true]
  simp only [decide_eq_true_eq]
  exact ⟨And.right, fun hin => ⟨Option.isSome_iff_exists.2 (hin.imp fun _ => And.left), hin⟩⟩

/-- When the record of a user is entered, the user is in the channel that the record names, and in
no other; everybody else stays where they are. -/
lemma Placed.of_usersIn_upsertUser (hplaced : d.Placed) (record : UserRecord)
    {channel : ChannelId} {before : List UserId} (hbefore : d.usersIn channel = some before) :
    ∃ members, (d.upsertUser record).usersIn channel = some members ∧
      (record.session ∈ members ↔ record.channel = some channel) ∧
      ∀ id ≠ record.session, id ∈ members ↔ id ∈ before := by
  have hchannel : (d.upsertUser record).usersIn channel ≠ none := by
    have hsome : d.usersIn channel ≠ none := by rw [hbefore]; exact Option.some_ne_none _
    rw [usersIn_ne_none_iff] at hsome ⊢
    exact hsome
  obtain ⟨members, hmembers⟩ := Option.ne_none_iff_exists'.1 hchannel
  have hkeyed' : (d.upsertUser record).Keyed := (hplaced.change (.upsert (.user record))).keyed
  have hmem := (hkeyed'.of_usersIn hmembers).2
  have huser : ∀ id, (d.upsertUser record).user? id =
      if id = record.session then some record else d.user? id :=
    getElem?_insert_eq d.users record.session record
  refine ⟨members, hmembers, ?_, fun id hid => ?_⟩
  · rw [hmem, huser, if_pos rfl]
    simp
  · rw [hmem, huser, if_neg hid, (hplaced.keyed.of_usersIn hbefore).2]

/-- Nobody is in two channels. -/
lemma Keyed.channel_eq_of_mem (hkeyed : d.Keyed) {channel channel' : ChannelId}
    {members members' : List UserId} {id : UserId} (hmembers : d.usersIn channel = some members)
    (hmembers' : d.usersIn channel' = some members') (hid : id ∈ members) (hid' : id ∈ members') :
    channel = channel' := by
  obtain ⟨record, hrecord, hchannel⟩ := ((hkeyed.of_usersIn hmembers).2 id).1 hid
  obtain ⟨record', hrecord', hchannel'⟩ := ((hkeyed.of_usersIn hmembers').2 id).1 hid'
  obtain rfl : record = record' := Option.some.inj (hrecord.symm.trans hrecord')
  exact Option.some.inj (hchannel.symm.trans hchannel')

section Names

variable {name : String}

lemma Keyed.findUser_eq_some_iff (hkeyed : d.Keyed) {id : UserId} :
    d.findUser name = some id ↔
      (∃ record, d.user? id = some record ∧ record.name = name) ∧
      ∀ id' record, d.user? id' = some record → record.name = name → id ≤ id' := by
  rw [findUser, values_find?_map_eq_some_iff hkeyed]
  simp only [decide_eq_true_eq, user?]

lemma findUser_eq_none_iff :
    d.findUser name = none ↔ ∀ id record, d.user? id = some record → record.name ≠ name := by
  rw [findUser, Option.map_eq_none_iff, values_find?_eq_none_iff]
  simp only [decide_eq_true_eq, user?, ne_eq]

lemma Placed.findChannel_eq_some_iff (hplaced : d.Placed) {id : ChannelId} :
    d.findChannel name = some id ↔
      (∃ record, d.channel? id = some record ∧ record.name = name) ∧
      ∀ id' record, d.channel? id' = some record → record.name = name → id ≤ id' := by
  rw [findChannel, values_find?_map_eq_some_iff hplaced.channel]
  simp only [decide_eq_true_eq, channel?]

lemma findChannel_eq_none_iff :
    d.findChannel name = none ↔ ∀ id record, d.channel? id = some record → record.name ≠ name := by
  rw [findChannel, Option.map_eq_none_iff, values_find?_eq_none_iff]
  simp only [decide_eq_true_eq, channel?, ne_eq]

end Names

/-! ## After any changes -/

section Run

variable (changes : List Change)

lemma placed_run_empty : (empty.run changes).Placed :=
  Placed.run (fun subject entry hentry => by simp [record?_empty] at hentry) changes

/-- Those are known whose record was entered. -/
lemma record?_run_empty_ne_none (subject : Subject) :
    (empty.run changes).record? subject ≠ none ↔
      ∃ entry, .upsert entry ∈ changes ∧ entry.subject = subject := by
  rw [record?_run_ne_none, record?_empty]
  exact or_iff_right (not_not.2 rfl)

lemma mem_userIds_run_empty (id : UserId) :
    id ∈ (empty.run changes).userIds ↔
      ∃ record, .upsert (.user record) ∈ changes ∧ record.session = id := by
  rw [mem_userIds_iff, record?_run_empty_ne_none]
  constructor
  · rintro ⟨entry, hentry, hsubject⟩
    cases entry with
    | user record => exact ⟨record, hentry, Subject.user.inj hsubject⟩
    | channel record => cases hsubject
  · rintro ⟨record, hrecord, rfl⟩
    exact ⟨.user record, hrecord, rfl⟩

lemma mem_channelIds_run_empty (id : ChannelId) :
    id ∈ (empty.run changes).channelIds ↔
      ∃ record, .upsert (.channel record) ∈ changes ∧ record.id = id := by
  rw [mem_channelIds_iff, record?_run_empty_ne_none]
  constructor
  · rintro ⟨entry, hentry, hsubject⟩
    cases entry with
    | user record => cases hsubject
    | channel record => exact ⟨record, hentry, Subject.channel.inj hsubject⟩
  · rintro ⟨record, hrecord, rfl⟩
    exact ⟨.channel record, hrecord, rfl⟩

end Run

/-- A record that is entered on the way is there in the end, with the changes since. -/
lemma record?_run_of_upsert (d : Directory) (before : List Change) (entry : Entry)
    (later : List Change) :
    (d.run (before ++ .upsert entry :: later)).record? entry.subject =
      some (entry.after later) := by
  rw [run_append]
  have hentered : ((d.run before).upsert entry).record? entry.subject = some entry := by
    rw [record?_upsert, if_pos rfl]
  exact record?_run_of_some hentered later

/-- What a directory tells after changes of an empty one. -/
structure Chronicled (changes : List Change) (d : Directory) : Prop where
  /-- Those are known whose record was entered. -/
  known : ∀ subject, d.record? subject ≠ none ↔
    ∃ entry, .upsert entry ∈ changes ∧ entry.subject = subject
  /-- What is known about them is what was entered, with all changes since; so it is the record
  that was entered last, with the changes of its fields. -/
  records : ∀ before entry later, changes = before ++ .upsert entry :: later →
    d.record? entry.subject = some (entry.after later)
  /-- The users are listed in ascending order, -/
  userIds_ascending : d.userIds.Pairwise (· < ·)
  /-- and so are those whose record was entered. -/
  mem_userIds : ∀ id, id ∈ d.userIds ↔
    ∃ record, .upsert (.user record) ∈ changes ∧ record.session = id
  /-- The channels are listed in ascending order, -/
  channelIds_ascending : d.channelIds.Pairwise (· < ·)
  /-- and so are those whose record was entered. -/
  mem_channelIds : ∀ id, id ∈ d.channelIds ↔
    ∃ record, .upsert (.channel record) ∈ changes ∧ record.id = id
  /-- A change of a field is accepted when there is a record, and only then. -/
  accepted : ∀ change, change.isUpsert = false →
    ((d.change change).1 = true ↔ d.record? change.subject ≠ none)
  /-- It changes this field of this record, and nothing else. -/
  revised : ∀ change subject, change.isUpsert = false →
    (d.change change).2.record? subject =
      if change.subject = subject then (d.record? subject).map change.revise
      else d.record? subject
  /-- One that is not accepted changes nothing at all. -/
  refused : ∀ change, change.isUpsert = false → (d.change change).1 = false →
    (d.change change).2 = d
  /-- The users in a channel are given if there is such a channel. -/
  usersIn_iff : ∀ channel, d.usersIn channel ≠ none ↔ channel ∈ d.channelIds
  /-- They are the users whose record names the channel, in ascending order. -/
  members : ∀ channel members, d.usersIn channel = some members →
    members.Pairwise (· < ·) ∧ ∀ id, id ∈ members ↔
      ∃ record, d.user? id = some record ∧ record.channel = some channel
  /-- Nobody is in two channels. -/
  alone : ∀ channel channel' members members' id, d.usersIn channel = some members →
    d.usersIn channel' = some members' → id ∈ members → id ∈ members' → channel = channel'
  /-- A user whose record is entered again is where the new record says, and everybody else stays
  where they are. -/
  moved : ∀ record channel before, d.usersIn channel = some before →
    ∃ members, (d.upsertUser record).usersIn channel = some members ∧
      (record.session ∈ members ↔ record.channel = some channel) ∧
      ∀ id ≠ record.session, id ∈ members ↔ id ∈ before
  /-- The search for the name of a user gives the lowest number of one who has it, -/
  findUser_iff : ∀ name id, d.findUser name = some id ↔
    (∃ record, d.user? id = some record ∧ record.name = name) ∧
    ∀ id' record, d.user? id' = some record → record.name = name → id ≤ id'
  /-- or nothing if nobody has it. -/
  findUser_none : ∀ name, d.findUser name = none ↔
    ∀ id record, d.user? id = some record → record.name ≠ name
  /-- The search for the name of a channel gives the lowest number of one that has it, -/
  findChannel_iff : ∀ name id, d.findChannel name = some id ↔
    (∃ record, d.channel? id = some record ∧ record.name = name) ∧
    ∀ id' record, d.channel? id' = some record → record.name = name → id ≤ id'
  /-- or nothing if none has it. -/
  findChannel_none : ∀ name, d.findChannel name = none ↔
    ∀ id record, d.channel? id = some record → record.name ≠ name

/-- **A directory tells its history.**  Whatever has been entered and changed, and in which order,
all views of the directory are those of the records that were entered last, with what was changed in
them since. -/
theorem run_chronicled (changes : List Change) : (empty.run changes).Chronicled changes := by
  have hplaced := placed_run_empty changes
  have hkeyed := hplaced.keyed
  refine
    { known := record?_run_empty_ne_none changes
      userIds_ascending := keys_pairwise
      mem_userIds := mem_userIds_run_empty changes
      channelIds_ascending := keys_pairwise
      mem_channelIds := mem_channelIds_run_empty changes
      refused := fun change hchange => (change_eq _ hchange).2
      usersIn_iff := fun _ => usersIn_ne_none_iff
      members := fun _ _ => hkeyed.of_usersIn
      alone := fun _ _ _ _ _ => hkeyed.channel_eq_of_mem
      moved := fun record _ _ => hplaced.of_usersIn_upsertUser record
      findUser_iff := fun _ _ => hkeyed.findUser_eq_some_iff
      findUser_none := fun _ => findUser_eq_none_iff
      findChannel_iff := fun _ _ => hplaced.findChannel_eq_some_iff
      findChannel_none := fun _ => findChannel_eq_none_iff
      records := ?records, accepted := ?accepted, revised := ?revised }
  case records =>
    rintro before entry later rfl
    exact empty.record?_run_of_upsert before entry later
  case accepted =>
    intro change hchange
    rw [(change_eq _ hchange).1, Option.isSome_iff_ne_none]
  case revised =>
    intro change subject hchange
    rw [record?_change]
    cases change with
    | upsert entry => cases hchange
    | setLocalMute | setUserComment | setChannelDescription => rfl

end Directory
end PluginHost
