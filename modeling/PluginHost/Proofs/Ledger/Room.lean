/-
# Lists and the room they take

A list has room for so many elements, and where it has none nothing is allocated for it: all such
lists begin at one place, whatever they are lists of.  At one place the ledger knows one buffer at
most, so a list without room is given some before it is lent (`Piece.withOwnRoom`).  One that is
registered as it is can only be the first of its sort.

What has been brought to a ledger, with the room it takes, is followed along any run
(`Deal.run`); the ledger always knows just these pieces (`Ledger.Tracks`), of which those without
room are at the one place, and no others.  The allocator gives memory where nothing is lent, and
never the same twice; that it is not null and not the place of lists without room is part of
`Allocation`.  Nothing is asked of the places where buffers are lent: that these are among the
memory that was given (`Wish.place_mem_memory`) is what the room of their own is for.  The main
statement is that lists of any length can be lent after any run, and any number of them at once
(`Deal.run_hospitable`).
-/
import PluginHost.Proofs.Ledger.Loans

namespace PluginHost

/-- How much room contents need at least.  A text has to have some for its NUL. -/
def Contents.need : Contents → Nat
  | .text octets => octets.length + 1
  | .userIds ids => ids.length
  | .channelIds ids => ids.length

/-- Memory that the allocator has given. -/
structure Allocation where
  /-- Where it is. -/
  place : Address
  /-- There is something. -/
  place_ne_null : place ≠ .null
  /-- It is not where the lists without room are. -/
  place_ne_dangling : place ≠ .dangling

/-- Contents with the memory that they are in. -/
structure Piece where
  /-- The contents. -/
  contents : Contents
  /-- For how much there is room. -/
  capacity : Nat
  /-- Where it begins. -/
  place : Address
  /-- There is room for the contents. -/
  fits : contents.need ≤ capacity
  /-- Where there is no room nothing has been allocated. -/
  place_eq_iff : place = .dangling ↔ capacity = 0
  /-- It is never nowhere. -/
  place_ne_null : place ≠ .null

namespace Piece

/-- What a plugin is lent of it. -/
def buffer (piece : Piece) : Buffer := ⟨piece.place, piece.contents⟩

/-- Contents that take no more room than they need; `own` is the memory for it. -/
def ofContents (contents : Contents) (own : Allocation) : Piece where
  contents := contents
  capacity := contents.need
  place := contents.ownPlace own.place
  fits := Nat.le_refl _
  place_eq_iff := by
    cases contents with
    | text octets => simp [Contents.ownPlace, Contents.need, own.place_ne_dangling]
    | userIds ids =>
      by_cases hids : ids = [] <;>
        simp [Contents.ownPlace, Contents.need, hids, own.place_ne_dangling]
    | channelIds ids =>
      by_cases hids : ids = [] <;>
        simp [Contents.ownPlace, Contents.need, hids, own.place_ne_dangling]
  place_ne_null := by
    cases contents with
    | text octets => exact own.place_ne_null
    | userIds ids | channelIds ids =>
      simp only [Contents.ownPlace]
      split_ifs
      · exact nofun
      · exact own.place_ne_null

/-- The same contents, in the memory `own` if they had no room so far. -/
def withOwnRoom (piece : Piece) (own : Allocation) : Piece :=
  if hroom : piece.capacity = 0 then
    { contents := piece.contents
      capacity := 1
      place := own.place
      fits := by
        have hfits := piece.fits
        omega
      place_eq_iff := by simp [own.place_ne_dangling]
      place_ne_null := own.place_ne_null }
  else piece

variable (piece : Piece) (own : Allocation)

lemma contents_withOwnRoom : (piece.withOwnRoom own).contents = piece.contents := by
  unfold withOwnRoom
  split_ifs <;> rfl

lemma place_withOwnRoom : (piece.withOwnRoom own).place =
    if piece.capacity = 0 then own.place else piece.place := by
  unfold withOwnRoom
  split_ifs <;> rfl

lemma capacity_withOwnRoom_ne_zero : (piece.withOwnRoom own).capacity ≠ 0 := by
  unfold withOwnRoom
  split_ifs with hroom
  · exact Nat.one_ne_zero
  · exact hroom

/-- With room of its own nothing is where the lists without room are. -/
lemma place_withOwnRoom_ne_dangling : (piece.withOwnRoom own).place ≠ .dangling :=
  mt (piece.withOwnRoom own).place_eq_iff.1 (piece.capacity_withOwnRoom_ne_zero own)

end Piece

/-- A wish that contents be lent. -/
structure Wish where
  /-- The contents, as they came. -/
  piece : Piece
  /-- The memory for them, if they came without. -/
  own : Allocation
  /-- The plugin that is to hold them. -/
  plugin : PluginId
  /-- The call that lends them. -/
  call : String

namespace Wish

/-- Where the memory is that the allocator has given for it: the memory that stands ready, and that
of the contents if they came with some. -/
def memory (wish : Wish) : List Address :=
  wish.own.place :: if wish.piece.capacity = 0 then [] else [wish.piece.place]

/-- What is lent. -/
def lent (wish : Wish) : Piece := wish.piece.withOwnRoom wish.own

/-- The entry that is made. -/
def loan (wish : Wish) : Loan := ⟨wish.lent.buffer, wish.plugin, wish.call⟩

/-- What is done to the ledger. -/
def operation (wish : Wish) : Ledger.Operation :=
  .lend wish.lent.place wish.lent.contents wish.plugin wish.call

/-- Whatever is lent is in memory that was given for it. -/
lemma place_mem_memory (wish : Wish) : wish.lent.place ∈ wish.memory := by
  rw [lent, Piece.place_withOwnRoom, memory]
  split_ifs <;> simp

/-- Where memory is given only once, no two buffers are lent at one place. -/
lemma nodup_places {wishes : List Wish} (hmemory : (wishes.flatMap memory).Nodup) :
    (wishes.map fun wish => wish.lent.place).Nodup := by
  refine (List.nodup_flatMap.1 hmemory).2.map _ fun wish other hdisjoint hsame => ?_
  exact hdisjoint wish.place_mem_memory (hsame ▸ other.place_mem_memory)

end Wish

/-- Something done to a ledger, with the memory that comes into it. -/
inductive Deal where
  /-- A piece is entered as it is. -/
  | register (piece : Piece) (plugin : PluginId) (call : String)
  /-- Contents are lent, in memory of their own. -/
  | lend (wish : Wish)
  /-- The buffer at an address is freed. -/
  | release (address : Address)
  /-- Everything that is lent is freed. -/
  | close

namespace Deal

/-- What becomes of a ledger, and of the pieces that it was brought and still has. -/
def apply (state : Ledger × List Piece) : Deal → Ledger × List Piece
  | .register piece plugin call =>
    match state.1.register piece.buffer plugin call with
    | none => state
    | some (_, l) => (l, state.2 ++ [piece])
  | .lend wish =>
    match state.1.lend wish.lent.place wish.lent.contents wish.plugin wish.call with
    | (.error _, l) => (l, state.2)
    | (.ok _, l) => (l, state.2 ++ [wish.lent])
  | .release address =>
    match state.1.release address with
    | (.error _, l) => (l, state.2)
    | (.ok (), l) => (l, state.2.filter fun piece => piece.place ≠ address)
  | .close => (state.1.close.2, [])

/-- What becomes of a new ledger. -/
def run (deals : List Deal) : Ledger × List Piece := deals.foldl apply (.empty, [])

end Deal

namespace Ledger

variable {l l' : Ledger} {loan : Loan} {handle : Handle} {pieces : List Piece} {piece : Piece}

/-! ## Entries and pieces -/

/-- The pieces are those that the ledger has entries of. -/
structure Tracks (l : Ledger) (pieces : List Piece) : Prop where
  consistent : Consistent l
  places_eq : l.index.map Prod.fst = pieces.map Piece.place
  buffers_perm : (l.loans.map Loan.buffer).Perm (pieces.map Piece.buffer)

lemma tracks_empty : Tracks empty [] := ⟨consistent_empty, rfl, .refl _⟩

namespace Tracks

lemma inserted (h : Tracks l pieces) {plugin : PluginId} {call : String}
    (hnew : l.contains piece.place = false)
    (hi : Inserted l ⟨piece.buffer, plugin, call⟩ handle l') : Tracks l' (pieces ++ [piece]) where
  consistent := hi.consistent h.consistent hnew
  places_eq := by
    rw [hi.index_eq, List.map_append, List.map_append, h.places_eq]
    rfl
  buffers_perm := by
    rw [List.map_append]
    refine ((hi.loans_perm h.consistent hnew).map Loan.buffer).trans ?_
    exact (h.buffers_perm.cons piece.buffer).trans (List.perm_append_singleton _ _).symm

lemma removed (h : Tracks l pieces) {address : Address} (hmem : (address, handle) ∈ l.index)
    (hr : Removed l address handle l') :
    Tracks l' (pieces.filter fun piece => piece.place ≠ address) where
  consistent := hr.consistent h.consistent hmem
  places_eq := by
    have hindex : (l.index.filter fun entry => entry.1 ≠ address).map Prod.fst =
        (l.index.map Prod.fst).filter fun other => other ≠ address := by
      rw [List.filter_map]
      rfl
    rw [hr.index_eq, hindex, h.places_eq, List.filter_map]
    rfl
  buffers_perm := by
    have hloans : (l.loans.filter fun loan => loan.buffer.address ≠ address).map Loan.buffer =
        (l.loans.map Loan.buffer).filter fun buffer => buffer.address ≠ address := by
      rw [List.filter_map]
      rfl
    have hpieces : (pieces.map Piece.buffer).filter (fun buffer => buffer.address ≠ address) =
        (pieces.filter fun piece => piece.place ≠ address).map Piece.buffer := by
      rw [List.filter_map]
      rfl
    refine ((hr.loans_perm h.consistent hmem).map Loan.buffer).trans ?_
    rw [hloans, ← hpieces]
    exact h.buffers_perm.filter _

/-- A piece is where the ledger has an entry. -/
lemma contains_iff (h : Tracks l pieces) {address : Address} :
    l.contains address = true ↔ ∃ piece ∈ pieces, piece.place = address := by
  rw [h.consistent.contains_iff_mem, h.places_eq, List.mem_map]

/-- One step: the pieces stay those that the ledger has. -/
lemma apply (h : Tracks l pieces) (deal : Deal) :
    Tracks (deal.apply (l, pieces)).1 (deal.apply (l, pieces)).2 := by
  cases deal with
  | register piece plugin call =>
    simp only [Deal.apply]
    split
    · exact h
    · next handle l' hregister =>
      obtain ⟨hnew, hinserted⟩ := h.consistent.of_register hregister
      exact h.inserted hnew hinserted
  | lend wish =>
    simp only [Deal.apply]
    by_cases hfree : l.contains wish.lent.place = false ∧ l.size < capacity
    · obtain ⟨handle, l', hlend, hinserted⟩ := h.consistent.lend_ok hfree.1 hfree.2
        wish.lent.contents wish.plugin wish.call
      rw [hlend]
      exact h.inserted hfree.1 hinserted
    · rw [h.consistent.lend_refused hfree]
      exact h
  | release address =>
    simp only [Deal.apply]
    by_cases hlive : l.contains address = true
    · obtain ⟨handle, l', hmem, hrelease, hremoved⟩ := h.consistent.release_ok hlive
      rw [hrelease]
      exact h.removed hmem hremoved
    · rw [release_of_not_contains (Bool.eq_false_of_not_eq_true hlive)]
      exact h
  | close => exact tracks_empty

end Tracks

lemma tracks_run (deals : List Deal) : Tracks (Deal.run deals).1 (Deal.run deals).2 := by
  -- from the end, since a deal finds what all those before it have left
  induction deals using List.reverseRecOn with
  | nil => exact tracks_empty
  | append_singleton deals deal ih =>
    rw [Deal.run, List.foldl_append]
    exact ih.apply deal

/-! ## Any number of wishes -/

/-- What is lent at places of its own does not take the place of anything else. -/
lemma run_wishes (h : Consistent l) {wishes : List Wish}
    (hroom : l.size + wishes.length ≤ capacity)
    (hplaces : (wishes.map fun wish => wish.lent.place).Nodup)
    (hfree : ∀ wish ∈ wishes, l.contains wish.lent.place = false) :
    (l.run (wishes.map Wish.operation)).1 =
        wishes.map (fun wish => .lent (.ok wish.lent.buffer)) ∧
      Consistent (l.run (wishes.map Wish.operation)).2 ∧
      (∀ address, l.contains address = true →
        (l.run (wishes.map Wish.operation)).2.loan? address = l.loan? address) ∧
      ∀ wish ∈ wishes,
        (l.run (wishes.map Wish.operation)).2.loan? wish.lent.place = some wish.loan := by
  -- the first wish leaves the places of the others free, and what is lent where it is
  induction wishes generalizing l with
  | nil => exact ⟨rfl, h, fun _ _ => rfl, nofun⟩
  | cons wish wishes ih =>
    rw [List.length_cons] at hroom
    rw [List.map_cons, List.nodup_cons] at hplaces
    have hnew := hfree wish List.mem_cons_self
    obtain ⟨handle, l', hlend, hi⟩ := h.lend_ok hnew (by omega) wish.lent.contents wish.plugin
      wish.call
    have hsize := hi.size_eq
    have h' := hi.consistent h hnew
    have hfree' : ∀ other ∈ wishes, l'.contains other.lent.place = false := by
      intro other hother
      have hne : other.lent.place ≠ wish.lent.place := fun heq =>
        hplaces.1 (heq ▸ List.mem_map_of_mem hother)
      exact hi.contains_eq_false h hnew hne (hfree other (List.mem_cons_of_mem _ hother))
    obtain ⟨hanswers, hconsistent, hkept, hlent⟩ := ih h' (by omega) hplaces.2 hfree'
    simp only [List.map_cons, Ledger.run, Wish.operation, Ledger.apply, hlend]
    refine ⟨by rw [← hanswers]; rfl, hconsistent, fun address hlive => ?_, ?_⟩
    · have hstays := hi.loan?_kept h hnew hlive
      obtain ⟨loan, hold⟩ := h.contains_iff.1 hlive
      exact (hkept address (h'.contains_iff.2 ⟨loan, hstays.trans hold⟩)).trans hstays
    · have hself := hi.loan?_self h hnew
      intro other hother
      rcases List.mem_cons.1 hother with rfl | hother
      · exact (hkept _ (h'.contains_iff.2 ⟨_, hself⟩)).trans hself
      · exact hlent other hother

/-- Buffers are freed one by one, in any order, and each one without the others. -/
lemma run_releases (h : Consistent l) {freed : List Address} (hnodup : freed.Nodup)
    (hlive : ∀ address ∈ freed, l.contains address = true) :
    (l.run (freed.map .release)).1 = freed.map (fun _ => .released (.ok ())) ∧
      ∀ address, (l.run (freed.map .release)).2.loan? address =
        if address ∈ freed then none else l.loan? address := by
  induction freed generalizing l with
  | nil => exact ⟨rfl, fun _ => rfl⟩
  | cons first freed ih =>
    obtain ⟨hfirst, hrest⟩ := List.nodup_cons.1 hnodup
    obtain ⟨handle, l', hmem, hrelease, hr⟩ := h.release_ok (hlive first List.mem_cons_self)
    have h' := hr.consistent h hmem
    have hloan := hr.loan?_eq h hmem
    have hlive' : ∀ address ∈ freed, l'.contains address = true := by
      intro address haddress
      have hne : address ≠ first := ne_of_mem_of_not_mem haddress hfirst
      obtain ⟨loan, hold⟩ := h.contains_iff.1 (hlive address (List.mem_cons_of_mem _ haddress))
      exact h'.contains_iff.2 ⟨loan, (hloan address).trans ((if_neg hne).trans hold)⟩
    obtain ⟨hanswers, hleft⟩ := ih h' hrest hlive'
    simp only [List.map_cons, Ledger.run, Ledger.apply, hrelease]
    refine ⟨by rw [hanswers], fun address => ?_⟩
    rw [hleft, hloan]
    simp only [List.mem_cons]
    split_ifs <;> simp_all

/-! ## After any run -/

/-- A list without room can be entered if there is no other one among the pieces. -/
lemma Tracks.register_roomless (h : Tracks l pieces) (hzero : piece.capacity = 0)
    (hroom : l.size < capacity) (plugin : PluginId) (call : String) :
    (l.register piece.buffer plugin call).isSome = true ↔
      ∀ other ∈ pieces, other.capacity ≠ 0 := by
  -- lists without room are all at one place, so what counts is whether a buffer is there
  have hdangling : piece.buffer.address = .dangling := piece.place_eq_iff.2 hzero
  have hlive : l.contains piece.buffer.address = true ↔ ∃ other ∈ pieces, other.capacity = 0 := by
    rw [hdangling, h.contains_iff]
    exact exists_congr fun other => and_congr_right fun _ => other.place_eq_iff
  have hinsert := (insert_isSome_iff h.consistent ⟨piece.buffer, plugin, call⟩).2 hroom
  unfold register
  split_ifs with hheld
  · obtain ⟨other, hother, hzero'⟩ := hlive.1 hheld
    exact ⟨nofun, fun hnone => absurd hzero' (hnone other hother)⟩
  · refine ⟨fun _ other hother hzero' => ?_, fun _ => hinsert⟩
    exact hheld (hlive.2 ⟨other, hother, hzero'⟩)

/-- What can be done to a ledger that has just these pieces. -/
structure Hospitable (l : Ledger) (pieces : List Piece) : Prop where
  /-- The buffers that are lent are those of the pieces. -/
  tracked : (l.loans.map Loan.buffer).Perm (pieces.map Piece.buffer)
  /-- A list, empty or not, is lent where nothing was lent; it is told how long it is, and has its
  elements. -/
  lends : ∀ wish : Wish, l.slots.length < capacity →
    (∀ place ∈ wish.memory, l.contains place = false) →
    ∃ buffer l', l.lend wish.lent.place wish.lent.contents wish.plugin wish.call =
        (.ok buffer, l') ∧
      buffer.address ≠ .null ∧ buffer.address ≠ .dangling ∧
      l.contains buffer.address = false ∧
      l'.loan? buffer.address = some ⟨buffer, wish.plugin, wish.call⟩ ∧
      (∀ ids, wish.piece.contents = .userIds ids →
        buffer.contents = .userIds ids ∧ buffer.contents.length = ids.length) ∧
      ∀ ids, wish.piece.contents = .channelIds ids →
        buffer.contents = .channelIds ids ∧ buffer.contents.length = ids.length
  /-- Any number of lists can be lent at once, all of which may be empty, each at a place of its own,
  and then be freed in any order, each one without the others. -/
  together : ∀ wishes : List Wish, l.slots.length + wishes.length ≤ capacity →
    (wishes.flatMap Wish.memory).Nodup →
    (∀ place ∈ wishes.flatMap Wish.memory, l.contains place = false) →
    let (answers, lent) := l.run (wishes.map Wish.operation)
    (wishes.map fun wish => wish.lent.place).Nodup ∧
    (∀ wish ∈ wishes, wish.lent.place ≠ .null ∧ wish.lent.place ≠ .dangling ∧
      l.contains wish.lent.place = false) ∧
    answers = wishes.map (fun wish => .lent (.ok ⟨wish.lent.place, wish.piece.contents⟩)) ∧
    (∀ wish ∈ wishes, lent.loan? wish.lent.place =
      some ⟨⟨wish.lent.place, wish.piece.contents⟩, wish.plugin, wish.call⟩) ∧
    ∀ freed : List Address, freed.Nodup → (∀ address ∈ freed, lent.contains address = true) →
      let (answers, left) := lent.run (freed.map .release)
      answers = freed.map (fun _ => .released (.ok ())) ∧
      ∀ address, left.loan? address = if address ∈ freed then none else lent.loan? address
  /-- A list without room is entered as it is exactly if no other one is there, of whichever kind;
  if it is refused nothing changes. -/
  roomless : ∀ (piece : Piece) plugin call, piece.capacity = 0 → l.slots.length < capacity →
    ((l.register piece.buffer plugin call).isSome = true ↔
      ∀ other ∈ pieces, other.capacity ≠ 0) ∧
    (l.register piece.buffer plugin call = none →
      l.apply (.register piece.buffer plugin call) = (.registered false, l))

namespace Tracks

lemma lends (h : Tracks l pieces) (wish : Wish) (hroom : l.size < capacity)
    (hfree : l.contains wish.lent.place = false) :
    ∃ buffer l', l.lend wish.lent.place wish.lent.contents wish.plugin wish.call =
        (.ok buffer, l') ∧
      buffer.address = wish.lent.place ∧
      l'.loan? buffer.address = some ⟨buffer, wish.plugin, wish.call⟩ ∧
      buffer.contents = wish.piece.contents := by
  obtain ⟨handle, l', hlend, hi⟩ := h.consistent.lend_ok hfree hroom wish.lent.contents wish.plugin
    wish.call
  refine ⟨_, l', hlend, rfl, ?_, wish.piece.contents_withOwnRoom wish.own⟩
  exact hi.loan?_self h.consistent hfree

lemma hospitable (h : Tracks l pieces) : Hospitable l pieces := by
  have hlength := h.consistent.length_slots
  have hbuffer : ∀ wish : Wish, wish.lent.buffer = ⟨wish.lent.place, wish.piece.contents⟩ :=
    fun wish => congrArg (Buffer.mk _) (wish.piece.contents_withOwnRoom wish.own)
  have hapart : ∀ wish : Wish, wish.lent.place ≠ .dangling :=
    fun wish => wish.piece.place_withOwnRoom_ne_dangling wish.own
  constructor
  · exact h.buffers_perm
  · intro wish hroom hmemory
    have hfree := hmemory _ wish.place_mem_memory
    obtain ⟨buffer, l', hlend, haddress, hloan, hcontents⟩ := h.lends wish (by omega) hfree
    refine ⟨buffer, l', hlend, haddress ▸ wish.lent.place_ne_null, haddress ▸ hapart wish,
      haddress ▸ hfree, hloan, fun ids hids => ?_, fun ids hids => ?_⟩
    · rw [hcontents, hids]
      exact ⟨rfl, rfl⟩
    · rw [hcontents, hids]
      exact ⟨rfl, rfl⟩
  · intro wishes hroom hnodup hmemory
    have hplaces := Wish.nodup_places hnodup
    have hfree : ∀ wish ∈ wishes, l.contains wish.lent.place = false := fun wish hwish =>
      hmemory _ (List.mem_flatMap_of_mem hwish wish.place_mem_memory)
    obtain ⟨hanswers, hconsistent, -, hlent⟩ :=
      run_wishes h.consistent (by omega) hplaces hfree
    refine ⟨hplaces, fun wish hwish => ⟨wish.lent.place_ne_null, hapart wish, hfree wish hwish⟩, ?_,
      fun wish hwish => ?_, fun freed hnodup hlive => run_releases hconsistent hnodup hlive⟩
    · simp only [hanswers, hbuffer]
    · rw [hlent wish hwish, Wish.loan, hbuffer]
  · intro piece plugin call hzero hroom
    exact ⟨h.register_roomless hzero (by omega) plugin call, fun hrefused => by
      simp [Ledger.apply, hrefused]⟩

end Tracks

end Ledger

/-- **Lists of any length can be lent.**  Whatever has been registered, lent and freed, with room of
its own or without, the ledger can do all that is said in `Ledger.Hospitable`. -/
theorem Deal.run_hospitable (deals : List Deal) :
    (Deal.run deals).1.Hospitable (Deal.run deals).2 :=
  (Ledger.tracks_run deals).hospitable

/-- Behind an empty list of users that was entered as it is, one of channels is refused; it can be
lent all the same, and so can another one. -/
theorem Deal.run_hospitable_empty :
    let own (serial : Nat) : Allocation := ⟨.allocation serial, nofun, nofun⟩
    let users := Piece.ofContents (.userIds []) (own 0)
    let channels := Piece.ofContents (.channelIds []) (own 0)
    let wishes : List Wish := [⟨channels, own 1, 3, "get_all_channels"⟩,
      ⟨users, own 2, 4, "get_all_users"⟩]
    let (l, _) := Deal.run [.register users 3 "get_all_users"]
    l.register channels.buffer 3 "get_all_channels" = none ∧
    (l.run (wishes.map Wish.operation)).1 =
      [.lent (.ok ⟨.allocation 1, .channelIds []⟩), .lent (.ok ⟨.allocation 2, .userIds []⟩)] := by
  intro own users channels wishes
  have h := run_hospitable [.register users 3 "get_all_users"]
  refine ⟨?_, (h.together wishes (by decide) (by decide) (by decide)).2.2.1⟩
  have hrefused := (h.roomless channels 3 "get_all_channels" rfl (by decide)).1
  refine Option.not_isSome_iff_eq_none.1 fun hentered => ?_
  exact hrefused.1 hentered users (List.mem_singleton.2 rfl) rfl

end PluginHost
