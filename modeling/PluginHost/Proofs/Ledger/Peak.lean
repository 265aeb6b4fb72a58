/-
# How many slots a ledger has

A ledger gets a new slot only when all those that it has are in use.  A slot that is given up can be
used again at once, and a refusal takes none.  So there are just as many slots as buffers were lent
at one moment, when they were most, since the ledger was new or was closed last
(`Ledger.recentSizes`).

After one operation the slots are as many as before, or as the buffers that are then lent if these
are more, and how many are lent can be told from the answer (`Ledger.Counted`).  Over a whole run
this makes the number of slots a maximum (`Ledger.isGreatest_recentSizes`).  The main statement,
`Ledger.run_slots`, adds what follows from it: those who free what they are lent bring about no new
slots, and slots run out only when `2 ^ 32` buffers are lent at once.
-/
import Mathlib.Order.Bounds.Basic
import PluginHost.Proofs.Ledger.Handles

namespace PluginHost

namespace Ledger

variable {l l' : Ledger} {loan : Loan} {handle : Handle} {operation : Operation}
  {operations more : List Operation}

/-! ## What the answers say -/

namespace Answer

/-- A buffer was entered. -/
def enters : Answer → Bool
  | registered entered => entered
  | lent result => result.isOk
  | released _ => false
  | closed _ => false

/-- A buffer was freed, by its address. -/
def frees : Answer → Bool
  | registered _ => false
  | lent _ => false
  | released result => result.isOk
  | closed _ => false

end Answer

/-- How many buffers were entered. -/
def entered (answers : List Answer) : ℕ := answers.countP Answer.enters

/-- How many buffers were freed, by their addresses. -/
def freed (answers : List Answer) : ℕ := answers.countP Answer.frees

lemma entered_cons (answer : Answer) (answers : List Answer) :
    entered (answer :: answers) = entered answers + answer.enters.toNat := by
  rw [entered, List.countP_cons]
  cases answer.enters <;> rfl

lemma freed_cons (answer : Answer) (answers : List Answer) :
    freed (answer :: answers) = freed answers + answer.frees.toNat := by
  rw [freed, List.countP_cons]
  cases answer.frees <;> rfl

lemma answer_of_loan? (hloan : operation.loan? = some loan) :
    (l.apply operation).1.enters = (l.register loan.buffer loan.plugin loan.call).isSome ∧
      (l.apply operation).1.frees = false := by
  cases operation with
  | register buffer plugin call =>
    cases hloan
    rcases hregister : l.register buffer plugin call with _ | ⟨handle, l'⟩ <;>
      simp [apply, hregister, Answer.enters, Answer.frees]
  | lend place contents plugin call =>
    cases hloan
    rcases hregister : l.register ⟨place, contents⟩ plugin call with _ | ⟨handle, l'⟩ <;>
      simp [apply, Ledger.lend, hregister, Answer.enters, Answer.frees, Except.isOk, Except.toBool]
  | release address => cases hloan
  | close => cases hloan

/-! ## One operation -/

/-- What an operation does to the numbers of buffers and slots, unless it closes the ledger. -/
structure Counted (l : Ledger) (answer : Answer) (l' : Ledger) : Prop where
  consistent : Consistent l'
  /-- The buffers that are lent are those before, with what was entered and without what was
  freed. -/
  size_eq : l'.size + answer.frees.toNat = l.size + answer.enters.toNat
  /-- There is a new slot if there would be too few. -/
  slots_eq : l'.slots.length = max l.slots.length l'.size

namespace Consistent

/-- A vacant slot is taken if there is one. -/
lemma length_slots_register (h : Consistent l)
    (hregister : l.register loan.buffer loan.plugin loan.call = some (handle, l')) :
    l'.slots.length = max l.slots.length (l.size + 1) := by
  have hlength := h.length_slots
  unfold register at hregister
  split at hregister
  · cases hregister
  unfold insert at hregister
  split at hregister
  · next index vacant hvacant =>
    obtain ⟨-, rfl⟩ := Prod.mk.inj (Option.some.inj hregister)
    rw [hvacant, List.length_cons] at hlength
    rw [List.length_set]
    omega
  · next hvacant =>
    split at hregister
    · obtain ⟨-, rfl⟩ := Prod.mk.inj (Option.some.inj hregister)
      rw [hvacant, List.length_nil] at hlength
      rw [List.length_append, List.length_singleton]
      omega
    · cases hregister

lemma size_release (h : Consistent l) {address : Address} (hmem : (address, handle) ∈ l.index)
    (hremoved : Removed l address handle l') : l'.size + 1 = l.size := by
  have hlength := h.length_slots
  have hlength' := (hremoved.consistent h hmem).length_slots
  rw [hremoved.length_eq, hremoved.vacant_eq, List.length_cons] at hlength'
  omega

lemma counted_release (h : Consistent l) (address : Address) :
    Counted l (l.apply (.release address)).1 (l.apply (.release address)).2 := by
  have hlength := h.length_slots
  by_cases hlive : l.contains address = true
  · obtain ⟨handle, l', hmem, hrelease, hremoved⟩ := h.release_ok hlive
    have hsize := h.size_release hmem hremoved
    have hslots := hremoved.length_eq
    simp only [apply, hrelease]
    refine ⟨hremoved.consistent h hmem, hsize, ?_⟩
    omega
  · simp only [apply, release_of_not_contains (Bool.eq_false_of_not_eq_true hlive)]
    exact ⟨h, rfl, by omega⟩

lemma counted_of_loan? (h : Consistent l) (hloan : operation.loan? = some loan) :
    Counted l (l.apply operation).1 (l.apply operation).2 := by
  have hlength := h.length_slots
  obtain ⟨henters, hfrees⟩ := answer_of_loan? (l := l) hloan
  have hafter := apply_of_loan? (l := l) hloan
  rcases hregister : l.register loan.buffer loan.plugin loan.call with _ | ⟨handle, l'⟩
  · rw [hregister] at henters hafter
    replace hafter : (l.apply operation).2 = l := hafter
    rw [hafter]
    refine ⟨h, ?_, by omega⟩
    rw [henters, hfrees]
    rfl
  · rw [hregister] at henters hafter
    replace hafter : (l.apply operation).2 = l' := hafter
    obtain ⟨hnew, hinserted⟩ := h.of_register hregister
    have hsize := hinserted.size_eq
    rw [hafter]
    refine ⟨hinserted.consistent h hnew, ?_, ?_⟩
    · rw [henters, hfrees]
      exact hsize
    · rw [h.length_slots_register hregister, hsize]

lemma counted (h : Consistent l) (hopen : operation ≠ .close) :
    Counted l (l.apply operation).1 (l.apply operation).2 := by
  cases operation with
  | register buffer plugin call => exact h.counted_of_loan? rfl
  | lend place contents plugin call => exact h.counted_of_loan? rfl
  | release address => exact h.counted_release address
  | close => exact absurd rfl hopen

/-- Any number of operations, none of which closes the ledger. -/
lemma counted_run (h : Consistent l) (hopen : .close ∉ more) :
    Consistent (l.run more).2 ∧
      (l.run more).2.size + freed (l.run more).1 = l.size + entered (l.run more).1 := by
  induction more generalizing l with
  | nil => exact ⟨h, rfl⟩
  | cons operation more ih =>
    rw [List.mem_cons, not_or] at hopen
    have hcounted := h.counted (Ne.symm hopen.1)
    obtain ⟨h', hsize⟩ := ih hcounted.consistent hopen.2
    refine ⟨h', ?_⟩
    have hfirst := hcounted.size_eq
    simp only [Ledger.run, entered_cons, freed_cons]
    omega

/-- A buffer is refused where one is lent already, and else only if there are no more slots. -/
lemma register_eq_none_iff (h : Consistent l) {buffer : Buffer} {plugin : PluginId}
    {call : String} : l.register buffer plugin call = none ↔
      l.contains buffer.address = true ∨ l.size = 2 ^ 32 := by
  have hlength := h.length_slots
  have hbounded : l.slots.length ≤ 2 ^ 32 := h.bounded
  have hinsert : (l.insert ⟨buffer, plugin, call⟩).isSome = true ↔ l.size < 2 ^ 32 :=
    insert_isSome_iff h _
  unfold register
  split_ifs with hlive
  · simp [hlive]
  · rw [← Option.not_isSome_iff_eq_none, hinsert, or_iff_right hlive]
    omega

end Consistent

/-! ## Runs -/

lemma run_append (l : Ledger) (operations more : List Operation) :
    (l.run (operations ++ more)).2 = ((l.run operations).2.run more).2 := by
  induction operations generalizing l with
  | nil => rfl
  | cons operation operations ih => exact ih _

lemma consistent_run (operations : List Operation) : Consistent (empty.run operations).2 :=
  (Mirrors.empty.run operations).2.consistent

/-- How many buffers were lent, at each moment since the ledger was new or was closed last. -/
def recentSizes (operations : List Operation) : Set ℕ :=
  {size | ∃ earlier recent, operations = earlier ++ recent ∧ .close ∉ recent ∧
    (empty.run earlier).2.size = size}

lemma size_mem_recentSizes (operations : List Operation) :
    (empty.run operations).2.size ∈ recentSizes operations :=
  ⟨operations, [], (List.append_nil _).symm, List.not_mem_nil, rfl⟩

lemma recentSizes_nil : recentSizes [] = {0} := by
  ext size
  constructor
  · rintro ⟨earlier, recent, hsplit, -, rfl⟩
    obtain ⟨rfl, -⟩ := List.append_eq_nil_iff.1 hsplit.symm
    rfl
  · rintro rfl
    exact size_mem_recentSizes []

lemma recentSizes_close (operations : List Operation) :
    recentSizes (operations ++ [.close]) = {0} := by
  have hclosed : (empty.run (operations ++ [.close])).2.size = 0 := by
    rw [run_append]
    rfl
  ext size
  constructor
  · rintro ⟨earlier, recent, hsplit, hopen, rfl⟩
    -- closing is the last operation, and so nothing came after it
    rcases List.eq_nil_or_concat recent with rfl | ⟨front, last, rfl⟩
    · rw [← hclosed, hsplit, List.append_nil]
      rfl
    · rw [List.concat_eq_append, ← List.append_assoc] at hsplit
      obtain ⟨-, hlast⟩ := List.append_inj' hsplit rfl
      rw [List.concat_eq_append, ← hlast] at hopen
      exact absurd (List.mem_append_right front List.mem_cons_self) hopen
  · rintro rfl
    rw [← hclosed]
    exact size_mem_recentSizes _

lemma recentSizes_append (hopen : .close ∉ more) :
    recentSizes (operations ++ more) = recentSizes operations ∪
      {size | ∃ part, part <+: more ∧ ((empty.run operations).2.run part).2.size = size} := by
  ext size
  constructor
  · rintro ⟨earlier, recent, hsplit, hrecent, rfl⟩
    rcases List.append_eq_append_iff.1 hsplit with ⟨part, rfl, rfl⟩ | ⟨middle, rfl, rfl⟩
    · exact .inr ⟨part, List.prefix_append _ _, by rw [run_append]⟩
    · exact .inl ⟨earlier, middle, rfl, fun hmem => hrecent (List.mem_append_left _ hmem), rfl⟩
  · rintro (⟨earlier, recent, rfl, hrecent, rfl⟩ | ⟨part, ⟨rest, rfl⟩, rfl⟩)
    · refine ⟨earlier, recent ++ more, List.append_assoc _ _ _, ?_, rfl⟩
      rw [List.mem_append, not_or]
      exact ⟨hrecent, hopen⟩
    · refine ⟨operations ++ part, rest, (List.append_assoc _ _ _).symm, ?_, by rw [run_append]⟩
      exact fun hmem => hopen (List.mem_append_right _ hmem)

lemma recentSizes_concat (hopen : operation ≠ .close) :
    recentSizes (operations ++ [operation]) =
      recentSizes operations ∪ {((empty.run operations).2.apply operation).2.size} := by
  rw [recentSizes_append fun hmem => hopen (List.mem_singleton.1 hmem).symm]
  ext size
  constructor
  · rintro (hsize | ⟨part, hpart, rfl⟩)
    · exact .inl hsize
    · -- the moment before the operation counts on both sides
      rcases List.prefix_cons_iff.1 hpart with rfl | ⟨rest, rfl, hrest⟩
      · exact .inl (size_mem_recentSizes operations)
      · rw [List.prefix_nil.1 hrest]
        exact .inr rfl
  · rintro (hsize | rfl)
    · exact .inl hsize
    · exact .inr ⟨[operation], List.prefix_rfl, rfl⟩

/-- There are as many slots as buffers were lent when they were most. -/
lemma isGreatest_recentSizes (operations : List Operation) :
    IsGreatest (recentSizes operations) (empty.run operations).2.slots.length := by
  -- from the end, as closing makes all that came before it count no more
  induction operations using List.reverseRecOn with
  | nil =>
    rw [recentSizes_nil]
    exact isGreatest_singleton
  | append_singleton operations operation ih =>
    rw [run_append]
    by_cases hclose : operation = .close
    · subst hclose
      rw [recentSizes_close]
      exact isGreatest_singleton
    · have hcounted := (consistent_run operations).counted hclose
      have hslots : ((empty.run operations).2.run [operation]).2.slots.length =
          max (empty.run operations).2.slots.length
            ((empty.run operations).2.apply operation).2.size := hcounted.slots_eq
      rw [recentSizes_concat hclose, hslots]
      exact ih.union isGreatest_singleton

/-- New slots come when there are more buffers lent than ever before, and only then. -/
lemma length_slots_run_iff (hopen : .close ∉ more) :
    ((empty.run operations).2.run more).2.slots.length = (empty.run operations).2.slots.length ↔
      ∀ part, part <+: more →
        ((empty.run operations).2.run part).2.size ≤ (empty.run operations).2.slots.length := by
  have hbefore := isGreatest_recentSizes operations
  have hafter := isGreatest_recentSizes (operations ++ more)
  rw [recentSizes_append hopen, run_append] at hafter
  have hle := hafter.2 (.inl hbefore.1)
  constructor
  · intro hsame part hpart
    rw [← hsame]
    exact hafter.2 (.inr ⟨part, hpart, rfl⟩)
  · intro hparts
    refine Nat.le_antisymm ?_ hle
    rcases hafter.1 with hold | ⟨part, hpart, hsize⟩
    · exact hbefore.2 hold
    · rw [← hsize]
      exact hparts part hpart

/-- **There are as many slots as buffers were lent at once.**  Whatever is done to a new ledger, the
number of its slots is the largest number of buffers that were lent at one moment since it was new
or was closed last, and each of them is in use or vacant.  While it is used further and not closed,
it gets new slots if at some moment, by its answers, the buffers that were entered are more than
those that were freed and the vacant slots together, and otherwise it gets none.  A buffer is
refused where one is lent already, and at any other place only when `2 ^ 32` buffers are lent. -/
theorem run_slots (operations : List Operation) :
    let l := (empty.run operations).2
    IsGreatest (recentSizes operations) l.slots.length ∧
    l.size + l.vacant.length = l.slots.length ∧
    (∀ more, .close ∉ more →
      ((l.run more).2.slots.length = l.slots.length ↔ ∀ part, part <+: more →
        entered (l.run part).1 ≤ freed (l.run part).1 + l.vacant.length)) ∧
    ∀ buffer plugin call, l.register buffer plugin call = none ↔
      l.contains buffer.address = true ∨ l.size = 2 ^ 32 := by
  intro l
  have h : Consistent l := consistent_run operations
  have hlength := h.length_slots
  refine ⟨isGreatest_recentSizes operations, hlength.symm, fun more hopen => ?_,
    fun buffer plugin call => h.register_eq_none_iff⟩
  rw [length_slots_run_iff hopen]
  refine forall₂_congr fun part hpart => ?_
  obtain ⟨-, hsize⟩ := h.counted_run fun hmem => hopen (hpart.subset hmem)
  change (l.run part).2.size ≤ l.slots.length ↔ _
  omega

/-- Three buffers were lent before the ledger was closed, and two at once since then.  One that was
refused has taken no slot, and the vacant one is enough for those who free what they are lent. -/
theorem run_slots_reused :
    let lend (serial : ℕ) : Operation := .lend (.allocation serial) (.text [97]) 3 "get_user_name"
    let release (serial : ℕ) : Operation := .release (.allocation serial)
    let operations := [lend 0, lend 1, lend 2, .close, lend 3, lend 4, release 3, lend 4, lend 5,
      release 4]
    let l := (empty.run operations).2
    IsGreatest (recentSizes operations) 2 ∧ l.size = 1 ∧ l.vacant.length = 1 ∧
    (l.run [lend 6, release 6, lend 7, release 5]).2.slots.length = l.slots.length := by
  intro lend release operations l
  obtain ⟨hgreatest, -, hmore, -⟩ := run_slots operations
  have hslots : l.slots.length = 2 := by decide
  refine ⟨hslots ▸ hgreatest, by decide, by decide, (hmore _ (by simp [lend, release])).2 ?_⟩
  intro part hpart
  rw [← List.mem_inits] at hpart
  revert part
  decide

end Ledger
end PluginHost
