/-
# Users and channels alike

A user has a comment, and a channel a description; of both the server may give only the hash at
first.  Where this is all that matters, there is one kind of record (`Directory.Entry`), which
belongs to a user or a channel (`Directory.Subject`), and two ways to change a directory: to enter
a record, and to note a text in the record that is there.
-/
import PluginHost.Proofs.Directory

namespace PluginHost

namespace Directory

/-- A user or a channel. -/
inductive Subject where
  /-- A user. -/
  | user (id : UserId)
  /-- A channel. -/
  | channel (id : ChannelId)
deriving DecidableEq, Repr

/-- What is known about a user or a channel. -/
inductive Entry where
  /-- About a user. -/
  | user (record : UserRecord)
  /-- About a channel. -/
  | channel (record : ChannelRecord)
deriving DecidableEq, Repr

namespace Entry

/-- Whom the record is about. -/
def subject : Entry → Subject
  | user record => .user record.session
  | channel record => .channel record.id

/-- The comment or description, if it is known; empty otherwise. -/
def text : Entry → String
  | user record => record.comment
  | channel record => record.description

/-- The hash of the comment or description, if the server gave only that; empty otherwise. -/
def hash : Entry → Bytes
  | user record => record.commentHash
  | channel record => record.descriptionHash

/-- The record with another comment or description. -/
def withText (text : String) : Entry → Entry
  | user record => .user { record with comment := text }
  | channel record => .channel { record with description := text }

@[simp] lemma text_withText (text : String) (e : Entry) : (e.withText text).text = text := by
  cases e <;> rfl

end Entry

/-- The record of a user or channel. -/
def record? (d : Directory) : Subject → Option Entry
  | .user id => (d.user? id).map .user
  | .channel id => (d.channel? id).map .channel

/-- Enters a record, in the place of an earlier one. -/
def upsert (d : Directory) : Entry → Directory
  | .user record => d.upsertUser record
  | .channel record => d.upsertChannel record

/-- Enters records, one after the other. -/
def upsertAll (d : Directory) (entries : List Entry) : Directory := entries.foldl upsert d

/-- Notes the comment of a user or the description of a channel. -/
def annotate (d : Directory) (text : String) : Subject → Directory
  | .user id => (d.setUserComment id text).2
  | .channel id => (d.setChannelDescription id text).2

variable {d : Directory} {subject : Subject} {text : String}

lemma record?_upsert (d : Directory) (entry : Entry) (subject : Subject) :
    (d.upsert entry).record? subject =
      if entry.subject = subject then some entry else d.record? subject := by
  cases entry with
  | user record =>
    cases subject with
    | user id =>
      by_cases hid : record.session = id
      · subst hid
        simp [record?, upsert, upsertUser, user?, Entry.subject]
      · simp [record?, upsert, upsertUser, user?, Entry.subject, Std.TreeMap.getElem?_insert, hid]
    | channel id => simp [record?, upsert, upsertUser, channel?, Entry.subject]
  | channel record =>
    cases subject with
    | user id => simp [record?, upsert, upsertChannel, user?, Entry.subject]
    | channel id =>
      by_cases hid : record.id = id
      · subst hid
        simp [record?, upsert, upsertChannel, channel?, Entry.subject]
      · simp [record?, upsert, upsertChannel, channel?, Entry.subject, Std.TreeMap.getElem?_insert,
          hid]

/-- Of the records that are entered, the last one about somebody is the one that is there. -/
lemma record?_upsertAll (d : Directory) (entries : List Entry) (subject : Subject) :
    (d.upsertAll entries).record? subject =
      (latest Entry.subject subject entries).or (d.record? subject) := by
  induction entries generalizing d with
  | nil => rfl
  | cons entry entries ih =>
    have hrest : (d.upsertAll (entry :: entries)).record? subject =
        ((d.upsert entry).upsertAll entries).record? subject := rfl
    rw [hrest, ih, record?_upsert, latest_cons, Option.or_assoc]
    congr 1
    by_cases hsubject : entry.subject = subject
    · rw [if_pos hsubject, if_pos hsubject]
      rfl
    · rw [if_neg hsubject, if_neg hsubject]
      rfl

lemma upsertAll_append (d : Directory) (entries entries' : List Entry) :
    d.upsertAll (entries ++ entries') = (d.upsertAll entries).upsertAll entries' :=
  List.foldl_append

lemma setUserComment_of_none {id : UserId} (hnone : d.user? id = none) (text : String) :
    (d.setUserComment id text).2 = d := by
  simp only [setUserComment, updateUser, hnone]

lemma setChannelDescription_of_none {id : ChannelId} (hnone : d.channel? id = none)
    (text : String) : (d.setChannelDescription id text).2 = d := by
  simp only [setChannelDescription, updateChannel, hnone]

lemma setChannelDescription_eq {id : ChannelId} {record : ChannelRecord}
    (hrecord : d.channel? id = some record) (text : String) :
    (d.setChannelDescription id text).2 =
      { d with channels := d.channels.insert id { record with description := text } } := by
  simp only [setChannelDescription, updateChannel, hrecord]

lemma channel?_setChannelDescription {id : ChannelId} {record : ChannelRecord}
    (hrecord : d.channel? id = some record) (text : String) (other : ChannelId) :
    (d.setChannelDescription id text).2.channel? other =
      if id = other then some { record with description := text } else d.channel? other := by
  rw [setChannelDescription_eq hrecord, channel?, Std.TreeMap.getElem?_insert]
  by_cases hid : id = other
  · simp [hid]
  · simp [hid, channel?]

/-- A text is noted in the record that is there, and nothing is noted where there is none. -/
lemma record?_annotate (d : Directory) (text : String) (subject other : Subject) :
    (d.annotate text subject).record? other =
      if subject = other then (d.record? other).map (Entry.withText text)
      else d.record? other := by
  cases subject with
  | user id =>
    cases hrecord : d.user? id with
    | none =>
      rw [annotate, setUserComment_of_none hrecord]
      split
      · next heq => rw [← heq, record?, hrecord]; rfl
      · rfl
    | some record =>
      cases other with
      | user id' =>
        by_cases hid : id = id'
        · subst hid
          simp [record?, annotate, user?_setUserComment hrecord, hrecord, Entry.withText]
        · simp [record?, annotate, user?_setUserComment_of_ne hrecord (Ne.symm hid), hid]
      | channel id' => simp [record?, annotate, setUserComment_eq hrecord, channel?]
  | channel id =>
    cases hrecord : d.channel? id with
    | none =>
      rw [annotate, setChannelDescription_of_none hrecord]
      split
      · next heq => rw [← heq, record?, hrecord]; rfl
      · rfl
    | some record =>
      cases other with
      | user id' => simp [record?, annotate, setChannelDescription_eq hrecord, user?]
      | channel id' =>
        by_cases hid : id = id'
        · subst hid
          simp [record?, annotate, channel?_setChannelDescription hrecord, hrecord,
            Entry.withText]
        · simp [record?, annotate, channel?_setChannelDescription hrecord, hid]

end Directory
end PluginHost
