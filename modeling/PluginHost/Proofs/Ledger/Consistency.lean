/-
# Consistent ledgers

A ledger writes down three times what is lent: its index has the address of every buffer, its
slots have the entries, and its stack of vacant slots has the numbers of all the others.  The
ledger is consistent when the three agree.  A ledger without entries is, and registering,
releasing and closing keep it so; what they do to the entries is then said by `loan?` alone,
without the slots and the stack.
-/
import Mathlib.Data.Finset.Card
import Mathlib.Data.List.Nodup
import Mathlib.Data.List.Range
import Mathlib.Tactic.Lemma
import PluginHost.Ledger

namespace PluginHost

namespace Ledger

/-- The index, the slots and the stack of vacant slots agree. -/
structure Consistent (l : Ledger) : Prop where
  /-- A handle in the index leads to a slot in use, of the handle's generation, with a buffer
  at the address under which the handle is found. -/
  indexed : ∀ {address handle}, (address, handle) ∈ l.index →
    ∃ loan, l.slots[handle.index]? = some ⟨handle.generation, some loan⟩ ∧
      loan.buffer.address = address
  /-- A slot in use is found in the index. -/
  used : ∀ {i : Nat} {generation loan}, l.slots[i]? = some ⟨generation, some loan⟩ →
    (loan.buffer.address, ⟨i, generation⟩) ∈ l.index
  /-- No address is twice in the index. -/
  addresses_nodup : (l.index.map Prod.fst).Nodup
  /-- On the stack are the slots that are not in use. -/
  vacant_iff : ∀ {i : Nat}, i ∈ l.vacant ↔ ∃ generation, l.slots[i]? = some ⟨generation, none⟩
  /-- No slot is twice on the stack. -/
  vacant_nodup : l.vacant.Nodup
  /-- There are no more slots than there can be. -/
  bounded : l.slots.length ≤ capacity

lemma consistent_empty : Consistent empty where
  indexed := by simp [empty]
  used := by simp [empty]
  addresses_nodup := by simp [empty]
  vacant_iff := by simp [empty]
  vacant_nodup := by simp [empty]
  bounded := by simp [empty]

/-- In a list without repeated keys, looking up a key is finding its pair. -/
lemma lookup_eq_some_iff_mem {α β : Type} [DecidableEq α] {pairs : List (α × β)}
    (h : (pairs.map Prod.fst).Nodup) {key : α} {value : β} :
    pairs.lookup key = some value ↔ (key, value) ∈ pairs := by
  induction pairs with
  | nil => simp
  | cons p pairs ih =>
    obtain ⟨k, v⟩ := p
    simp only [List.map_cons, List.nodup_cons, List.mem_map, not_exists, not_and] at h
    rw [List.lookup_cons, List.mem_cons, Prod.mk.injEq]
    by_cases hk : key = k
    · subst hk
      have hnot : (key, value) ∉ pairs := fun hmem => h.1 _ hmem rfl
      simp [hnot, eq_comm]
    · have hkey : (key == k) = false := beq_false_of_ne hk
      simp only [hkey, hk, false_and, false_or]
      exact ih h.2

namespace Consistent

variable {l : Ledger}

lemma lookup_eq_some_iff (h : Consistent l) {address : Address} {handle : Handle} :
    l.index.lookup address = some handle ↔ (address, handle) ∈ l.index :=
  lookup_eq_some_iff_mem h.addresses_nodup

/-- The entry at an address is the one in the slot to which the index leads. -/
lemma loan?_eq_some_iff (h : Consistent l) {address : Address} {loan : Loan} :
    l.loan? address = some loan ↔ ∃ handle, (address, handle) ∈ l.index ∧
      l.slots[handle.index]? = some ⟨handle.generation, some loan⟩ := by
  constructor
  · intro hloan
    simp only [loan?, Option.bind_eq_bind, Option.bind_eq_some_iff] at hloan
    obtain ⟨handle, hlookup, slot, hslot, hif⟩ := hloan
    split at hif
    · next hgen =>
      refine ⟨handle, h.lookup_eq_some_iff.1 hlookup, ?_⟩
      rw [hslot, ← hgen, ← hif]
    · exact absurd hif (by simp)
  · rintro ⟨handle, hmem, hslot⟩
    simp [loan?, h.lookup_eq_some_iff.2 hmem, hslot]

lemma loan?_eq_some_iff_used (h : Consistent l) {address : Address} {loan : Loan} :
    l.loan? address = some loan ↔ loan.buffer.address = address ∧
      ∃ (i : Nat) (generation : UInt32), l.slots[i]? = some ⟨generation, some loan⟩ := by
  rw [h.loan?_eq_some_iff]
  constructor
  · rintro ⟨handle, hmem, hslot⟩
    obtain ⟨loan', hslot', haddress⟩ := h.indexed hmem
    obtain rfl : loan = loan' := by simpa [hslot] using hslot'
    exact ⟨haddress, handle.index, handle.generation, hslot⟩
  · rintro ⟨rfl, i, generation, hslot⟩
    exact ⟨⟨i, generation⟩, h.used hslot, hslot⟩

lemma contains_iff (h : Consistent l) {address : Address} :
    l.contains address = true ↔ ∃ loan, l.loan? address = some loan := by
  rw [contains, Option.isSome_iff_exists]
  constructor
  · rintro ⟨handle, hlookup⟩
    have hmem := h.lookup_eq_some_iff.1 hlookup
    obtain ⟨loan, hslot, -⟩ := h.indexed hmem
    exact ⟨loan, h.loan?_eq_some_iff.2 ⟨handle, hmem, hslot⟩⟩
  · rintro ⟨loan, hloan⟩
    obtain ⟨handle, hmem, -⟩ := h.loan?_eq_some_iff.1 hloan
    exact ⟨handle, h.lookup_eq_some_iff.2 hmem⟩

lemma loan?_eq_none_iff (h : Consistent l) {address : Address} :
    l.loan? address = none ↔ l.contains address = false := by
  rw [← Bool.not_eq_true, h.contains_iff, Option.eq_none_iff_forall_not_mem, not_exists]
  rfl

lemma contains_iff_mem (h : Consistent l) {address : Address} :
    l.contains address = true ↔ address ∈ l.index.map Prod.fst := by
  rw [contains, Option.isSome_iff_exists, List.mem_map]
  constructor
  · rintro ⟨handle, hlookup⟩
    exact ⟨(address, handle), h.lookup_eq_some_iff.1 hlookup, rfl⟩
  · rintro ⟨⟨_, handle⟩, hmem, rfl⟩
    exact ⟨handle, h.lookup_eq_some_iff.2 hmem⟩

/-- No two addresses share a slot. -/
lemma eq_of_index_eq (h : Consistent l) {a b : Address × Handle} (ha : a ∈ l.index)
    (hb : b ∈ l.index) (hindex : a.2.index = b.2.index) : a = b := by
  obtain ⟨loan, hslot, haddress⟩ := h.indexed ha
  obtain ⟨loan', hslot', haddress'⟩ := h.indexed hb
  rw [← hindex, hslot] at hslot'
  simp only [Option.some.injEq, Slot.mk.injEq] at hslot'
  obtain ⟨hgeneration, rfl⟩ := hslot'
  obtain ⟨_, _, _⟩ := a
  obtain ⟨_, _, _⟩ := b
  simp_all

lemma index_nodup (h : Consistent l) : l.index.Nodup := h.addresses_nodup.of_map _

lemma slots_nodup (h : Consistent l) : (l.index.map fun entry => entry.2.index).Nodup :=
  h.index_nodup.map_on fun _ ha _ hb => h.eq_of_index_eq ha hb

/-- Every slot is either in use or vacant, and no slot is both. -/
lemma perm_range (h : Consistent l) :
    (l.index.map (fun entry => entry.2.index) ++ l.vacant).Perm (List.range l.slots.length) := by
  have hdisjoint : ∀ i ∈ l.index.map (fun entry => entry.2.index), ∀ j ∈ l.vacant, i ≠ j := by
    rintro _ hi j hj rfl
    obtain ⟨⟨address, handle⟩, hmem, rfl⟩ := List.mem_map.1 hi
    obtain ⟨loan, hslot, -⟩ := h.indexed hmem
    obtain ⟨generation, hvacant⟩ := h.vacant_iff.1 hj
    simp [hslot] at hvacant
  have hnodup : (l.index.map (fun entry => entry.2.index) ++ l.vacant).Nodup :=
    List.nodup_append.2 ⟨h.slots_nodup, h.vacant_nodup, hdisjoint⟩
  rw [List.perm_ext_iff_of_nodup hnodup List.nodup_range]
  intro i
  rw [List.mem_append, List.mem_map, h.vacant_iff, List.mem_range]
  constructor
  · rintro (⟨⟨address, handle⟩, hmem, rfl⟩ | ⟨generation, hslot⟩)
    · obtain ⟨loan, hslot, -⟩ := h.indexed hmem
      exact (List.getElem?_eq_some_iff.1 hslot).1
    · exact (List.getElem?_eq_some_iff.1 hslot).1
  · intro hi
    rcases hslot : l.slots[i] with ⟨generation, _ | loan⟩
    · exact Or.inr ⟨generation, List.getElem?_eq_some_iff.2 ⟨hi, hslot⟩⟩
    · exact Or.inl ⟨_, h.used (List.getElem?_eq_some_iff.2 ⟨hi, hslot⟩), rfl⟩

/-- There are as many slots as lent buffers and vacant slots. -/
lemma length_slots (h : Consistent l) : l.slots.length = l.size + l.vacant.length := by
  simpa [size] using h.perm_range.length_eq.symm

end Consistent

/-! ## Registering -/

/-- What putting an entry into a ledger does: the entry is in a slot that was not in use, the
index leads to it, and nothing else has changed. -/
structure Inserted (l : Ledger) (loan : Loan) (handle : Handle) (l' : Ledger) : Prop where
  index_eq : l'.index = l.index ++ [(loan.buffer.address, handle)]
  slot_eq : l'.slots[handle.index]? = some ⟨handle.generation, some loan⟩
  slot_ne : ∀ i ≠ handle.index, l'.slots[i]? = l.slots[i]?
  was_unused : ∀ generation loan', l.slots[handle.index]? ≠ some ⟨generation, some loan'⟩
  vacant_iff : ∀ i, i ∈ l'.vacant ↔ i ∈ l.vacant ∧ i ≠ handle.index
  vacant_nodup : l'.vacant.Nodup
  bounded : l'.slots.length ≤ capacity

variable {l l' : Ledger} {loan : Loan} {handle : Handle}

lemma inserted_of_insert (h : Consistent l) (hinsert : l.insert loan = some (handle, l')) :
    Inserted l loan handle l' := by
  have hnodup := h.vacant_nodup
  unfold insert at hinsert
  split at hinsert
  · next index vacant hvacant =>
    -- the slot given up last is used again, under its own generation
    obtain ⟨generation, hslot⟩ := h.vacant_iff.1 (hvacant ▸ List.mem_cons_self : index ∈ l.vacant)
    have hlt : index < l.slots.length := (List.getElem?_eq_some_iff.1 hslot).1
    simp only [hslot, Option.map_some, Option.getD_some, Option.some.injEq, Prod.mk.injEq]
      at hinsert
    obtain ⟨rfl, rfl⟩ := hinsert
    rw [hvacant, List.nodup_cons] at hnodup
    constructor
    · rfl
    · simp [List.getElem?_set_self hlt]
    · intro i hi
      exact List.getElem?_set_ne (Ne.symm hi)
    · simp [hslot]
    · intro i
      rw [hvacant, List.mem_cons]
      constructor
      · intro hi
        refine ⟨Or.inr hi, ?_⟩
        rintro rfl
        exact hnodup.1 hi
      · rintro ⟨rfl | hi, hne⟩
        · exact absurd rfl hne
        · exact hi
    · exact hnodup.2
    · simpa using h.bounded
  · next hvacant =>
    -- no slot is vacant, and a new one comes behind the others
    split at hinsert
    · next hlt =>
      simp only [Option.some.injEq, Prod.mk.injEq] at hinsert
      obtain ⟨rfl, rfl⟩ := hinsert
      constructor
      · rfl
      · simp
      · intro i hi
        simp only at hi ⊢
        rw [List.getElem?_append]
        split
        · rfl
        · next hge =>
          have hlength : ([⟨0, some loan⟩] : List Slot).length ≤ i - l.slots.length := by
            rw [List.length_singleton]
            omega
          rw [List.getElem?_eq_none hlength, List.getElem?_eq_none (Nat.le_of_not_lt hge)]
      · simp
      · simp [hvacant]
      · simp [hvacant]
      · rw [List.length_append, List.length_singleton]
        exact hlt
    · exact absurd hinsert (by simp)

/-- What is registered was not lent before. -/
lemma Consistent.of_register (h : Consistent l) {buffer : Buffer} {plugin : PluginId}
    {call : String} (hregister : l.register buffer plugin call = some (handle, l')) :
    l.contains buffer.address = false ∧ Inserted l ⟨buffer, plugin, call⟩ handle l' := by
  unfold register at hregister
  split at hregister
  · exact absurd hregister nofun
  · next hlive => exact ⟨Bool.eq_false_of_not_eq_true hlive, inserted_of_insert h hregister⟩

/-- There is a slot for an entry unless all of them are in use. -/
lemma insert_isSome_iff (h : Consistent l) (loan : Loan) :
    (l.insert loan).isSome = true ↔ l.size < capacity := by
  have hlength := h.length_slots
  have hbounded := h.bounded
  unfold insert
  split
  · next index vacant hvacant =>
    rw [hvacant, List.length_cons] at hlength
    simp only [Option.isSome_some, true_iff]
    omega
  · next hvacant =>
    rw [hvacant, List.length_nil] at hlength
    split <;> simp <;> omega

namespace Inserted

lemma consistent (h : Consistent l) (hi : Inserted l loan handle l')
    (hnew : l.contains loan.buffer.address = false) : Consistent l' where
  indexed := by
    intro address handle' hmem
    rw [hi.index_eq, List.mem_append, List.mem_singleton] at hmem
    rcases hmem with hmem | heq
    · obtain ⟨loan', hslot, haddress⟩ := h.indexed hmem
      refine ⟨loan', ?_, haddress⟩
      rw [hi.slot_ne, hslot]
      exact fun heq => hi.was_unused _ _ (heq ▸ hslot)
    · obtain ⟨rfl, rfl⟩ := Prod.mk.inj heq
      exact ⟨loan, hi.slot_eq, rfl⟩
  used := by
    intro i generation loan' hslot
    rw [hi.index_eq, List.mem_append, List.mem_singleton]
    by_cases hne : i = handle.index
    · subst hne
      rw [hi.slot_eq] at hslot
      simp only [Option.some.injEq, Slot.mk.injEq] at hslot
      obtain ⟨rfl, rfl⟩ := hslot
      exact Or.inr rfl
    · rw [hi.slot_ne i hne] at hslot
      exact Or.inl (h.used hslot)
  addresses_nodup := by
    rw [hi.index_eq, List.map_append, List.nodup_append]
    refine ⟨h.addresses_nodup, by simp, ?_⟩
    intro a ha b hb heq
    obtain rfl : b = loan.buffer.address := by simpa using hb
    subst heq
    exact absurd (h.contains_iff_mem.2 ha) (by simp [hnew])
  vacant_iff := by
    intro i
    rw [hi.vacant_iff, h.vacant_iff]
    by_cases hne : i = handle.index
    · subst hne
      simp [hi.slot_eq]
    · simp [hi.slot_ne i hne, hne]
  vacant_nodup := hi.vacant_nodup
  bounded := hi.bounded

/-- After an insertion the new entry is found at its address, and all others where they were. -/
lemma loan?_eq (h : Consistent l) (hi : Inserted l loan handle l')
    (hnew : l.contains loan.buffer.address = false) (address : Address) :
    l'.loan? address = if address = loan.buffer.address then some loan else l.loan? address := by
  have h' := hi.consistent h hnew
  split
  · next heq =>
    subst heq
    exact h'.loan?_eq_some_iff_used.2 ⟨rfl, _, _, hi.slot_eq⟩
  · next hne =>
    apply Option.ext
    intro other
    rw [h'.loan?_eq_some_iff, h.loan?_eq_some_iff]
    refine exists_congr fun handle' => ?_
    rw [hi.index_eq, List.mem_append, List.mem_singleton, Prod.mk.injEq]
    constructor
    · rintro ⟨hmem | ⟨heq, -⟩, hslot⟩
      · obtain ⟨loan', hslot', -⟩ := h.indexed hmem
        rw [hi.slot_ne _ fun heq => hi.was_unused _ _ (heq ▸ hslot')] at hslot
        exact ⟨hmem, hslot⟩
      · exact absurd heq hne
    · rintro ⟨hmem, hslot⟩
      rw [hi.slot_ne _ fun heq => hi.was_unused _ _ (heq ▸ hslot)]
      exact ⟨Or.inl hmem, hslot⟩

lemma loan?_self (h : Consistent l) (hi : Inserted l loan handle l')
    (hnew : l.contains loan.buffer.address = false) :
    l'.loan? loan.buffer.address = some loan := by
  rw [hi.loan?_eq h hnew, if_pos rfl]

/-- What was lent before is found as before. -/
lemma loan?_kept (h : Consistent l) (hi : Inserted l loan handle l')
    (hnew : l.contains loan.buffer.address = false) {address : Address}
    (hlive : l.contains address = true) : l'.loan? address = l.loan? address := by
  rw [hi.loan?_eq h hnew, if_neg]
  rintro rfl
  rw [hnew] at hlive
  cases hlive

lemma contains_eq_false (h : Consistent l) (hi : Inserted l loan handle l')
    (hnew : l.contains loan.buffer.address = false) {address : Address}
    (hne : address ≠ loan.buffer.address) (hfree : l.contains address = false) :
    l'.contains address = false := by
  rw [← (hi.consistent h hnew).loan?_eq_none_iff, hi.loan?_eq h hnew, if_neg hne,
    h.loan?_eq_none_iff]
  exact hfree

lemma size_eq (hi : Inserted l loan handle l') : l'.size = l.size + 1 := by
  rw [size, hi.index_eq, List.length_append]
  rfl

end Inserted

/-! ## Releasing -/

/-- What freeing the buffer at an address does: its slot is vacant under the next generation,
the index has forgotten the address, and nothing else has changed. -/
structure Removed (l : Ledger) (address : Address) (handle : Handle) (l' : Ledger) : Prop where
  index_eq : l'.index = l.index.filter fun entry => entry.1 ≠ address
  slot_eq : l'.slots[handle.index]? = some ⟨handle.generation + 1, none⟩
  slot_ne : ∀ i ≠ handle.index, l'.slots[i]? = l.slots[i]?
  vacant_eq : l'.vacant = handle.index :: l.vacant
  length_eq : l'.slots.length = l.slots.length

/-- A slot in use is given up by a handle of its generation. -/
lemma take_of_slot (hslot : l.slots[handle.index]? = some ⟨handle.generation, some loan⟩) :
    l.take handle = some (loan,
      { l with
        slots := l.slots.set handle.index ⟨handle.generation + 1, none⟩
        vacant := handle.index :: l.vacant }) := by
  simp [take, hslot]

lemma release_of_not_contains {address : Address} (hnot : l.contains address = false) :
    l.release address = (.error .pointerNotFound, l) := by
  have hlookup : l.index.lookup address = none := by simpa [contains] using hnot
  simp [release, hlookup]

/-- What is found in the index can be freed: the handle found there is never out of date. -/
lemma release_of_mem (h : Consistent l) {address : Address}
    (hmem : (address, handle) ∈ l.index) :
    ∃ l', l.release address = (.ok (), l') ∧ Removed l address handle l' := by
  obtain ⟨loan, hslot, -⟩ := h.indexed hmem
  have hlt : handle.index < l.slots.length := (List.getElem?_eq_some_iff.1 hslot).1
  have htake := take_of_slot
    (l := { l with index := l.index.filter fun entry => entry.1 ≠ address }) hslot
  refine ⟨_, by simp only [release, h.lookup_eq_some_iff.2 hmem, htake]; rfl, ?_⟩
  constructor
  · rfl
  · exact List.getElem?_set_self hlt
  · intro i hi
    exact List.getElem?_set_ne (Ne.symm hi)
  · rfl
  · exact List.length_set

namespace Removed

variable {address : Address}

lemma consistent (h : Consistent l) (hmem : (address, handle) ∈ l.index)
    (hr : Removed l address handle l') : Consistent l' := by
  -- the slot that was given up belonged to no other address
  have hother : ∀ {entry}, entry ∈ l.index → entry.1 ≠ address →
      entry.2.index ≠ handle.index := by
    intro entry hentry hne heq
    exact hne (congrArg Prod.fst (h.eq_of_index_eq hentry hmem heq))
  constructor
  · intro address' handle' hmem'
    rw [hr.index_eq, List.mem_filter, decide_eq_true_eq] at hmem'
    obtain ⟨loan, hslot, haddress⟩ := h.indexed hmem'.1
    exact ⟨loan, by rw [hr.slot_ne _ (hother hmem'.1 hmem'.2), hslot], haddress⟩
  · intro i generation loan hslot
    have hne : i ≠ handle.index := by
      rintro rfl
      simp [hr.slot_eq] at hslot
    rw [hr.slot_ne i hne] at hslot
    rw [hr.index_eq, List.mem_filter, decide_eq_true_eq]
    refine ⟨h.used hslot, ?_⟩
    intro heq
    have hsame := h.lookup_eq_some_iff.2 (h.used hslot)
    simp only at heq
    rw [heq, h.lookup_eq_some_iff.2 hmem, Option.some.injEq] at hsame
    exact hne (congrArg Handle.index hsame.symm)
  · rw [hr.index_eq]
    exact h.addresses_nodup.sublist (List.filter_sublist.map _)
  · intro i
    rw [hr.vacant_eq, List.mem_cons, h.vacant_iff]
    by_cases hne : i = handle.index
    · subst hne
      simp [hr.slot_eq]
    · simp [hr.slot_ne i hne, hne]
  · rw [hr.vacant_eq, List.nodup_cons, h.vacant_iff]
    refine ⟨?_, h.vacant_nodup⟩
    rintro ⟨generation, hvacant⟩
    obtain ⟨loan, hslot, -⟩ := h.indexed hmem
    simp [hslot] at hvacant
  · rw [hr.length_eq]
    exact h.bounded

/-- After a release nothing is found at the address, and all other entries where they were. -/
lemma loan?_eq (h : Consistent l) (hmem : (address, handle) ∈ l.index)
    (hr : Removed l address handle l') (other : Address) :
    l'.loan? other = if other = address then none else l.loan? other := by
  have h' := hr.consistent h hmem
  split
  · next heq =>
    subst heq
    rw [Option.eq_none_iff_forall_not_mem]
    intro loan hloan
    obtain ⟨handle', hmem', -⟩ := h'.loan?_eq_some_iff.1 hloan
    rw [hr.index_eq, List.mem_filter] at hmem'
    simp at hmem'
  · next hne =>
    apply Option.ext
    intro loan
    rw [h'.loan?_eq_some_iff, h.loan?_eq_some_iff]
    refine exists_congr fun handle' => ?_
    rw [hr.index_eq, List.mem_filter, decide_eq_true_eq]
    constructor
    · rintro ⟨⟨hmem', -⟩, hslot⟩
      have hindex : handle'.index ≠ handle.index :=
        fun heq => hne (congrArg Prod.fst (h.eq_of_index_eq hmem' hmem heq))
      exact ⟨hmem', by rw [← hr.slot_ne _ hindex, hslot]⟩
    · rintro ⟨hmem', hslot⟩
      have hindex : handle'.index ≠ handle.index :=
        fun heq => hne (congrArg Prod.fst (h.eq_of_index_eq hmem' hmem heq))
      exact ⟨⟨hmem', hne⟩, by rw [hr.slot_ne _ hindex, hslot]⟩

end Removed

namespace Consistent

/-- Every buffer that is lent can be freed. -/
lemma release_ok (h : Consistent l) {address : Address} (hlive : l.contains address = true) :
    ∃ handle l', (address, handle) ∈ l.index ∧ l.release address = (.ok (), l') ∧
      Removed l address handle l' := by
  obtain ⟨⟨_, handle⟩, hmem, rfl⟩ := List.mem_map.1 (h.contains_iff_mem.1 hlive)
  obtain ⟨l', hrelease, hr⟩ := release_of_mem h hmem
  exact ⟨handle, l', hmem, hrelease, hr⟩

lemma release (h : Consistent l) (address : Address) : Consistent (l.release address).2 := by
  by_cases hlive : l.contains address = true
  · obtain ⟨handle, l', hmem, hrelease, hr⟩ := h.release_ok hlive
    rw [hrelease]
    exact hr.consistent h hmem
  · rw [release_of_not_contains (Bool.eq_false_of_not_eq_true hlive)]
    exact h

lemma lend (h : Consistent l) (place : Address) (contents : Contents) (plugin : PluginId)
    (call : String) : Consistent (l.lend place contents plugin call).2 := by
  unfold Ledger.lend register
  rcases hlive : l.contains place with _ | _
  · rcases hinsert : l.insert ⟨⟨place, contents⟩, plugin, call⟩ with _ | ⟨handle, l'⟩
    · simpa [hinsert, hlive] using h
    · simpa [hinsert, hlive] using (inserted_of_insert h hinsert).consistent h hlive
  · simpa [hlive] using h

/-- Contents can be lent at a place where nothing is, as long as not all slots are in use. -/
lemma lend_ok (h : Consistent l) {place : Address} (hnew : l.contains place = false)
    (hroom : l.size < capacity) (contents : Contents) (plugin : PluginId) (call : String) :
    ∃ handle l', l.lend place contents plugin call = (.ok ⟨place, contents⟩, l') ∧
      Inserted l ⟨⟨place, contents⟩, plugin, call⟩ handle l' := by
  obtain ⟨⟨handle, l'⟩, hinsert⟩ := Option.isSome_iff_exists.1
    ((insert_isSome_iff h ⟨⟨place, contents⟩, plugin, call⟩).2 hroom)
  refine ⟨handle, l', ?_, inserted_of_insert h hinsert⟩
  simp [Ledger.lend, register, hnew, hinsert]

/-- Otherwise they are refused, and nothing changes. -/
lemma lend_refused (h : Consistent l) {place : Address}
    (hrefused : ¬ (l.contains place = false ∧ l.size < capacity)) (contents : Contents)
    (plugin : PluginId) (call : String) :
    l.lend place contents plugin call = (.error .internalError, l) := by
  rcases hlive : l.contains place with _ | _
  · have hfull : ¬ l.size < capacity := fun hroom => hrefused ⟨hlive, hroom⟩
    rw [← insert_isSome_iff h ⟨⟨place, contents⟩, plugin, call⟩,
      Option.not_isSome_iff_eq_none] at hfull
    simp [Ledger.lend, register, hlive, hfull]
  · simp [Ledger.lend, register, hlive]

end Consistent

end Ledger
end PluginHost
