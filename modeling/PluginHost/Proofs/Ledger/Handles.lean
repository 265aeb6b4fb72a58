/-
# Handles

A handle names a slot and the generation that the slot had when the buffer was entered.  Freeing the
buffer in a slot raises the generation, and until the ledger is closed nothing else changes it.  So
the generation counts how often a slot was freed, up to multiples of `2 ^ 32`, and a buffer stays in
its slot until it is freed (`Slot.Passed`, `Ledger.Consistent.passed_run`).

A handle that was given out is therefore not given out again before the ledger is closed or the
count goes round, and all the while nothing is found by it once its buffer has been freed
(`Ledger.take_entered`).
-/
import Mathlib.Algebra.Order.Ring.Int
import PluginHost.Proofs.Ledger.Book

namespace PluginHost

/-! ## Slots -/

/-- What has become of a slot while buffers in it were freed so many times. -/
structure Slot.Passed (freed : ℕ) (slot slot' : Slot) : Prop where
  /-- The generation has gone up by one each time; it wraps. -/
  generation_eq : slot'.generation = slot.generation + UInt32.ofNat freed
  /-- If none was freed, the entry is still there. -/
  loan_eq : freed = 0 → ∀ loan, slot.loan = some loan → slot'.loan = some loan

namespace Slot.Passed

variable {slot slot' slot'' : Slot} {m n : ℕ}

lemma refl (slot : Slot) : slot.Passed 0 slot := ⟨(UInt32.add_zero _).symm, fun _ _ => id⟩

lemma trans (h : slot.Passed m slot') (h' : slot'.Passed n slot'') :
    slot.Passed (m + n) slot'' where
  generation_eq := by
    rw [h'.generation_eq, h.generation_eq, UInt32.ofNat_add, UInt32.add_assoc]
  loan_eq hnone loan hloan := by
    obtain ⟨hm, hn⟩ := Nat.add_eq_zero_iff.1 hnone
    exact h'.loan_eq hn loan (h.loan_eq hm loan hloan)

/-- A generation comes again when the count has gone round. -/
lemma generation_eq_iff (h : slot.Passed m slot') :
    slot'.generation = slot.generation ↔ 2 ^ 32 ∣ m := by
  rw [h.generation_eq, ← UInt32.toNat_inj, UInt32.toNat_add, UInt32.toNat_ofNat']
  have hlt := slot.generation.toNat_lt
  omega

/-- A slot in use is as it was if nothing in it was freed. -/
lemma eq_of_used {generation : UInt32} {loan : Loan}
    (h : Slot.Passed m ⟨generation, some loan⟩ slot') (hnone : m = 0) :
    slot' = ⟨generation, some loan⟩ := by
  have hgeneration := h.generation_eq_iff.2 (hnone ▸ Nat.dvd_zero _)
  have hentry := h.loan_eq hnone loan rfl
  cases slot'
  rw [Slot.mk.injEq]
  exact ⟨hgeneration, hentry⟩

end Slot.Passed

namespace Ledger

variable {l l' : Ledger} {loan : Loan} {handle : Handle} {operation : Operation}

/-! ## What an operation does to slots -/

/-- The entry that an operation is to make. -/
def Operation.loan? : Operation → Option Loan
  | register buffer plugin call => some ⟨buffer, plugin, call⟩
  | lend place contents plugin call => some ⟨⟨place, contents⟩, plugin, call⟩
  | release _ => none
  | close => none

/-- The handle of the entry that an operation makes, if it makes one. -/
def entered? (l : Ledger) (operation : Operation) : Option Handle :=
  operation.loan?.bind fun loan => (l.register loan.buffer loan.plugin loan.call).map Prod.fst

/-- Whether an operation frees the buffer in a slot. -/
def frees (l : Ledger) (slot : ℕ) : Operation → Bool
  | .release address => (l.index.lookup address).map Handle.index == some slot
  | _ => false

/-- How often buffers in a slot are freed by operations, one after the other. -/
def timesFreed (l : Ledger) (slot : ℕ) : List Operation → ℕ
  | [] => 0
  | operation :: operations =>
    (l.frees slot operation).toNat + (l.apply operation).2.timesFreed slot operations

/-- Lending is registering, as far as the ledger goes. -/
lemma apply_of_loan? (hloan : operation.loan? = some loan) : (l.apply operation).2 =
    ((l.register loan.buffer loan.plugin loan.call).map Prod.snd).getD l := by
  cases operation with
  | register buffer plugin call =>
    cases hloan
    rcases hregister : l.register buffer plugin call with _ | ⟨handle, l'⟩ <;>
      simp [apply, hregister]
  | lend place contents plugin call =>
    cases hloan
    rcases hregister : l.register ⟨place, contents⟩ plugin call with _ | ⟨handle, l'⟩ <;>
      simp [apply, Ledger.lend, hregister]
  | release address => cases hloan
  | close => cases hloan

lemma entered?_eq_some_iff : l.entered? operation = some handle ↔ ∃ loan,
    operation.loan? = some loan ∧
    l.register loan.buffer loan.plugin loan.call = some (handle, (l.apply operation).2) := by
  rw [entered?, Option.bind_eq_some_iff]
  refine exists_congr fun loan => and_congr_right fun hloan => ?_
  rw [apply_of_loan? hloan]
  rcases l.register loan.buffer loan.plugin loan.call with _ | ⟨handle', l'⟩ <;> simp

/-- A slot that is used again keeps its generation. -/
lemma insert_generation (hinsert : l.insert loan = some (handle, l')) {slot : Slot}
    (hslot : l.slots[handle.index]? = some slot) : handle.generation = slot.generation := by
  unfold insert at hinsert
  split at hinsert
  · obtain ⟨rfl, -⟩ := Prod.mk.inj (Option.some.inj hinsert)
    simp only at hslot
    rw [hslot, Option.map_some, Option.getD_some]
  · split at hinsert
    · obtain ⟨rfl, -⟩ := Prod.mk.inj (Option.some.inj hinsert)
      simp at hslot
    · cases hinsert

lemma register_generation {buffer : Buffer} {plugin : PluginId} {call : String}
    (hregister : l.register buffer plugin call = some (handle, l')) {slot : Slot}
    (hslot : l.slots[handle.index]? = some slot) : handle.generation = slot.generation := by
  unfold register at hregister
  split at hregister
  · cases hregister
  · exact insert_generation hregister hslot

lemma frees_of_loan? (hloan : operation.loan? = some loan) (slot : ℕ) :
    l.frees slot operation = false := by
  cases operation with
  | register buffer plugin call => rfl
  | lend place contents plugin call => rfl
  | release address => cases hloan
  | close => rfl

namespace Consistent

lemma frees_release (h : Consistent l) {address : Address} (hmem : (address, handle) ∈ l.index)
    (slot : ℕ) : l.frees slot (.release address) = decide (handle.index = slot) := by
  rw [frees, h.lookup_eq_some_iff.2 hmem, Option.map_some]
  rfl

/-- An operation enters a buffer, frees one or leaves all as it is, unless it closes the ledger. -/
lemma apply_cases (h : Consistent l) (hopen : operation ≠ .close) :
    (∃ loan handle, operation.loan? = some loan ∧
      l.register loan.buffer loan.plugin loan.call = some (handle, (l.apply operation).2)) ∨
    (∃ address handle, operation = .release address ∧ (address, handle) ∈ l.index ∧
      Removed l address handle (l.apply operation).2) ∨
    ((l.apply operation).2 = l ∧ ∀ slot, l.frees slot operation = false) := by
  rcases hloan : operation.loan? with _ | loan
  · cases operation with
    | register buffer plugin call => cases hloan
    | lend place contents plugin call => cases hloan
    | close => exact absurd rfl hopen
    | release address =>
      by_cases hlive : l.contains address = true
      · obtain ⟨handle, l', hmem, hrelease, hremoved⟩ := h.release_ok hlive
        refine .inr (.inl ⟨address, handle, rfl, hmem, ?_⟩)
        rw [apply, hrelease]
        exact hremoved
      · have hnot := Bool.eq_false_of_not_eq_true hlive
        refine .inr (.inr ⟨by rw [apply, release_of_not_contains hnot], fun slot => ?_⟩)
        rw [frees, show l.index.lookup address = none by simpa [contains] using hnot]
        rfl
  · rcases hregister : l.register loan.buffer loan.plugin loan.call with _ | ⟨handle, l'⟩
    · exact .inr (.inr ⟨by rw [apply_of_loan? hloan, hregister]; rfl, frees_of_loan? hloan⟩)
    · exact .inl ⟨loan, handle, rfl, by rw [apply_of_loan? hloan, hregister]; rfl⟩

lemma passed_register (h : Consistent l)
    (hregister : l.register loan.buffer loan.plugin loan.call = some (handle, l')) {i : ℕ}
    {slot : Slot} (hslot : l.slots[i]? = some slot) :
    ∃ slot', l'.slots[i]? = some slot' ∧ slot.Passed 0 slot' := by
  obtain ⟨-, hinserted⟩ := h.of_register hregister
  by_cases hi : i = handle.index
  · subst hi
    refine ⟨_, hinserted.slot_eq, ?_, fun _ loan' hused => ?_⟩
    · rw [register_generation hregister hslot]
      exact (Slot.Passed.refl slot).generation_eq
    · -- nothing is entered into a slot in use
      obtain ⟨generation, entry⟩ := slot
      obtain rfl : entry = some loan' := hused
      exact absurd hslot (hinserted.was_unused _ _)
  · exact ⟨slot, (hinserted.slot_ne i hi).trans hslot, .refl slot⟩

lemma passed_release (h : Consistent l) {address : Address} (hmem : (address, handle) ∈ l.index)
    (hremoved : Removed l address handle l') {i : ℕ} {slot : Slot}
    (hslot : l.slots[i]? = some slot) :
    ∃ slot', l'.slots[i]? = some slot' ∧ slot.Passed (decide (handle.index = i)).toNat slot' := by
  by_cases hi : i = handle.index
  · subst hi
    obtain ⟨loan, hused, -⟩ := h.indexed hmem
    obtain rfl := Option.some.inj (hslot.symm.trans hused)
    rw [decide_eq_true rfl]
    exact ⟨_, hremoved.slot_eq, rfl, nofun⟩
  · rw [decide_eq_false (Ne.symm hi)]
    exact ⟨slot, (hremoved.slot_ne i hi).trans hslot, .refl slot⟩

/-- One operation: a buffer that is freed raises the generation of its slot, and all else leaves
slots in use as they are. -/
lemma passed_apply (h : Consistent l) (hopen : operation ≠ .close) {i : ℕ} {slot : Slot}
    (hslot : l.slots[i]? = some slot) :
    Consistent (l.apply operation).2 ∧ ∃ slot', (l.apply operation).2.slots[i]? = some slot' ∧
      slot.Passed (l.frees i operation).toNat slot' := by
  obtain ⟨loan, handle, hloan, hregister⟩ | ⟨address, handle, rfl, hmem, hremoved⟩ |
    ⟨hsame, hfrees⟩ := h.apply_cases hopen
  · obtain ⟨hnew, hinserted⟩ := h.of_register hregister
    rw [frees_of_loan? hloan]
    exact ⟨hinserted.consistent h hnew, h.passed_register hregister hslot⟩
  · rw [h.frees_release hmem]
    exact ⟨hremoved.consistent h hmem, h.passed_release hmem hremoved hslot⟩
  · rw [hsame, hfrees]
    exact ⟨h, slot, hslot, .refl slot⟩

/-- Any number of operations, none of which closes the ledger. -/
lemma passed_run (h : Consistent l) {operations : List Operation} (hopen : .close ∉ operations)
    {i : ℕ} {slot : Slot} (hslot : l.slots[i]? = some slot) :
    Consistent (l.run operations).2 ∧ ∃ slot', (l.run operations).2.slots[i]? = some slot' ∧
      slot.Passed (l.timesFreed i operations) slot' := by
  induction operations generalizing l slot with
  | nil => exact ⟨h, slot, hslot, .refl slot⟩
  | cons operation operations ih =>
    rw [List.mem_cons, not_or] at hopen
    obtain ⟨h', slot', hslot', hpassed⟩ := h.passed_apply (Ne.symm hopen.1) hslot
    obtain ⟨h'', slot'', hslot'', hpassed'⟩ := ih h' hopen.2 hslot'
    exact ⟨h'', slot'', hslot'', hpassed.trans hpassed'⟩

/-- A buffer stays where it is until it is freed. -/
lemma timesFreed_pos (h : Consistent l) {address : Address} (hmem : (address, handle) ∈ l.index)
    {operations : List Operation} (hopen : .close ∉ operations)
    (hrelease : .release address ∈ operations) : 0 < l.timesFreed handle.index operations := by
  induction operations generalizing l with
  | nil => cases hrelease
  | cons operation operations ih =>
    rw [List.mem_cons, not_or] at hopen
    rw [timesFreed]
    rcases hfrees : l.frees handle.index operation with _ | _
    · obtain ⟨loan, hslot, rfl⟩ := h.indexed hmem
      obtain ⟨h', slot, hslot', hpassed⟩ := h.passed_apply (Ne.symm hopen.1) hslot
      rw [hfrees] at hpassed
      obtain rfl := hpassed.eq_of_used rfl
      have hne : operation ≠ .release loan.buffer.address := by
        rintro rfl
        rw [h.frees_release hmem, decide_eq_true rfl] at hfrees
        cases hfrees
      have hlater := ih h' (h'.used hslot') hopen.2
        ((List.mem_cons.1 hrelease).resolve_left (Ne.symm hne))
      omega
    · have hone : (true).toNat = 1 := rfl
      omega

end Consistent

/-! ## Handles that were given out -/

section Passed

variable {freed : ℕ} {slot : Slot} (hslot : l.slots[handle.index]? = some slot)
  (hpassed : Slot.Passed freed ⟨handle.generation, some loan⟩ slot)
include hslot hpassed

lemma take_of_not_dvd (hfreed : ¬ 2 ^ 32 ∣ freed) : l.take handle = none := by
  have hne : slot.generation ≠ handle.generation := mt hpassed.generation_eq_iff.1 hfreed
  rw [take, hslot]
  exact if_pos hne

lemma take_of_kept (hfreed : freed = 0) : (l.take handle).map Prod.fst = some loan := by
  obtain rfl := hpassed.eq_of_used hfreed
  rw [take_of_slot hslot, Option.map_some]

lemma Consistent.dvd_of_entered? (h : Consistent l)
    (hentered : l.entered? operation = some handle) : 2 ^ 32 ∣ freed ∧ freed ≠ 0 := by
  obtain ⟨loan', -, hregister⟩ := entered?_eq_some_iff.1 hentered
  refine ⟨hpassed.generation_eq_iff.1 (register_generation hregister hslot).symm, fun hzero => ?_⟩
  -- the first buffer would still be in the slot
  obtain rfl := hpassed.eq_of_used hzero
  exact (h.of_register hregister).2.was_unused _ _ hslot

end Passed

/-- **A handle is not given out twice.**  After any operations one enters a buffer and is given a
handle.  Whatever is done then, another one is given the same handle only if the ledger has been
closed in between, or if the slot has been freed a positive multiple of `2 ^ 32` times; and this is
so for buffers that are registered and for those that are lent.  The buffer is found by its handle
as long as it is not freed.  Once it has been, nothing is found by the handle, and nothing is given
up for it, also when there is another buffer in the slot, until one of the two has come about. -/
theorem take_entered (before between : List Operation) (first second : Operation)
    (hfirst : (empty.run before).2.entered? first = some handle) :
    let l := ((empty.run before).2.apply first).2
    let l' := (l.run between).2
    let freed := l.timesFreed handle.index between
    let again := .close ∈ between ∨ ∃ k > 0, freed = k * 2 ^ 32
    (l'.entered? second = some handle → again) ∧
    ∃ loan, first.loan? = some loan ∧
      (.close ∉ between → freed = 0 → (l'.take handle).map Prod.fst = some loan) ∧
      (.release loan.buffer.address ∈ between → ¬ again → l'.take handle = none) := by
  intro l l' freed again
  obtain ⟨loan, hloan, hregister⟩ := entered?_eq_some_iff.1 hfirst
  have hbefore : Consistent (empty.run before).2 := (Mirrors.empty.run before).2.consistent
  obtain ⟨hnew, hinserted⟩ := hbefore.of_register hregister
  have h : Consistent l := hinserted.consistent hbefore hnew
  -- what has become of the slot, if the ledger was not closed
  have hafter (hopen : .close ∉ between) :
      Consistent l' ∧ ∃ slot, l'.slots[handle.index]? = some slot ∧
        Slot.Passed freed ⟨handle.generation, some loan⟩ slot :=
    h.passed_run hopen hinserted.slot_eq
  have hround : 2 ^ 32 ∣ freed → freed ≠ 0 → again := by
    rintro ⟨k, hk⟩ hfreed
    exact .inr ⟨k, by omega, by omega⟩
  refine ⟨fun hsecond => ?_, loan, hloan, fun hopen hkept => ?_, fun hrelease hnot => ?_⟩
  · by_cases hopen : .close ∈ between
    · exact .inl hopen
    · obtain ⟨h', slot, hslot, hpassed⟩ := hafter hopen
      obtain ⟨hdvd, hfreed⟩ := h'.dvd_of_entered? hslot hpassed hsecond
      exact hround hdvd hfreed
  · obtain ⟨-, slot, hslot, hpassed⟩ := hafter hopen
    exact take_of_kept hslot hpassed hkept
  · have hopen : .close ∉ between := fun hclose => hnot (.inl hclose)
    obtain ⟨-, slot, hslot, hpassed⟩ := hafter hopen
    have hmem : (loan.buffer.address, handle) ∈ l.index := h.used hinserted.slot_eq
    have hfreed := h.timesFreed_pos hmem hopen hrelease
    exact take_of_not_dvd hslot hpassed fun hdvd => hnot (hround hdvd hfreed.ne')

/-- The buffer was freed and there is another one in its slot.  Nothing is found by the handle of
the first one, and neither the second buffer nor a third one has it. -/
theorem take_entered_outdated :
    let first : Operation := .register ⟨.allocation 0, .text [97]⟩ 1 "a"
    let between : List Operation :=
      [.release (.allocation 0), .lend (.allocation 1) (.text [98]) 1 "b"]
    let l' := ((empty.apply first).2.run between).2
    empty.entered? first = some ⟨0, 0⟩ ∧
    (l'.take ⟨0, 1⟩).map Prod.fst = some ⟨⟨.allocation 1, .text [98]⟩, 1, "b"⟩ ∧
    l'.take ⟨0, 0⟩ = none ∧
    l'.entered? (.lend (.allocation 2) (.text [99]) 1 "c") ≠ some ⟨0, 0⟩ := by
  intro first between l'
  have hfirst : empty.entered? first = some ⟨0, 0⟩ := by decide
  have hnot : ¬ (.close ∈ between ∨
      ∃ k > 0, (empty.apply first).2.timesFreed 0 between = k * 2 ^ 32) := by
    rintro (hclose | ⟨k, hk, hround⟩)
    · simp [between] at hclose
    · have hone : (empty.apply first).2.timesFreed 0 between = 1 := by decide
      omega
  obtain ⟨hsecond, loan, hloan, -, hfreed⟩ :=
    take_entered [] between first (.lend (.allocation 2) (.text [99]) 1 "c") hfirst
  obtain rfl : loan = ⟨⟨.allocation 0, .text [97]⟩, 1, "a"⟩ := (Option.some.inj hloan).symm
  exact ⟨hfirst, by decide, hfreed List.mem_cons_self hnot, mt hsecond hnot⟩

/-- A ledger that was closed begins anew, with its handles too. -/
example : let l := (empty.run [.register ⟨.allocation 0, .text [97]⟩ 1 "a", .close]).2
    l.entered? (.register ⟨.allocation 1, .text [98]⟩ 1 "b") = some ⟨0, 0⟩ := by decide

end Ledger
end PluginHost
