/-
# The ledger as a map

Seen from outside, a ledger is a map: under the address of every buffer that is lent stands its
entry.  Such a map is a `Book`, and a book can do what a ledger can: enter a buffer, lend
contents, free a buffer and report what is still lent.  Where the ledger goes through an index,
slots of some generation and a stack, the book only inserts and erases.

The two cannot be told apart: whatever is done to them, one operation after the other, they
give the same answers and show the same entries (`run_eq_book`).
-/
import Mathlib.Data.Finmap
import PluginHost.Proofs.Ledger.Consistency

namespace PluginHost

namespace Ledger

/-- Something done to a ledger. -/
inductive Operation where
  /-- Enter a buffer. -/
  | register (buffer : Buffer) (plugin : PluginId) (call : String)
  /-- Lend contents, of whichever kind, at a place that the allocator gave. -/
  | lend (place : Address) (contents : Contents) (plugin : PluginId) (call : String)
  /-- Free the buffer at an address. -/
  | release (address : Address)
  /-- Free everything that is lent, and report it. -/
  | close

/-- What is answered to an operation. -/
inductive Answer where
  /-- Whether the buffer was entered. -/
  | registered (entered : Bool)
  /-- The buffer that was lent. -/
  | lent (result : CallResult Buffer)
  /-- Whether a buffer was freed. -/
  | released (result : CallResult Unit)
  /-- What was still lent; the order does not count. -/
  | closed (leaks : Multiset Leak)

/-- Does something to a ledger. -/
def apply (l : Ledger) : Operation → Answer × Ledger
  | .register buffer plugin call =>
    match l.register buffer plugin call with
    | none => (.registered false, l)
    | some (_, l') => (.registered true, l')
  | .lend place contents plugin call =>
    let (result, l') := l.lend place contents plugin call
    (.lent result, l')
  | .release address =>
    let (result, l') := l.release address
    (.released result, l')
  | .close =>
    let (leaks, l') := l.close
    (.closed leaks, l')

/-- Does several things to a ledger, one after the other. -/
def run (l : Ledger) : List Operation → List Answer × Ledger
  | [] => ([], l)
  | operation :: operations =>
    let (answer, l') := l.apply operation
    let (answers, l'') := l'.run operations
    (answer :: answers, l'')

end Ledger

/-- What is lent: the entries, by address. -/
abbrev Book := Finmap fun _ : Address => Loan

namespace Book

open Ledger (Operation Answer capacity)

/-- Whether an entry can be written at an address: nothing is lent there, and there is room. -/
def Free (book : Book) (address : Address) : Prop :=
  address ∉ book ∧ book.keys.card < capacity

instance (book : Book) (address : Address) : Decidable (book.Free address) :=
  inferInstanceAs (Decidable (_ ∧ _))

/-- Does something to a book. -/
def apply (book : Book) : Operation → Answer × Book
  | .register buffer plugin call =>
    if book.Free buffer.address then
      (.registered true, book.insert buffer.address ⟨buffer, plugin, call⟩)
    else (.registered false, book)
  | .lend place contents plugin call =>
    if book.Free place then
      (.lent (.ok ⟨place, contents⟩), book.insert place ⟨⟨place, contents⟩, plugin, call⟩)
    else (.lent (.error .internalError), book)
  | .release address =>
    if address ∈ book then (.released (.ok ()), book.erase address)
    else (.released (.error .pointerNotFound), book)
  | .close => (.closed (book.entries.map fun entry => entry.2.leak), ∅)

/-- Does several things to a book, one after the other. -/
def run (book : Book) : List Operation → List Answer × Book
  | [] => ([], book)
  | operation :: operations =>
    let (answer, book') := book.apply operation
    let (answers, book'') := Book.run book' operations
    (answer :: answers, book'')

end Book

namespace Ledger

variable {l l' : Ledger} {book : Book}

/-- A consistent ledger shows the entries of a book. -/
structure Mirrors (l : Ledger) (book : Book) : Prop where
  consistent : Consistent l
  lookup_eq : ∀ address, book.lookup address = l.loan? address

/-- The entries of a consistent ledger, with their addresses and handles. -/
lemma Consistent.exists_entries (h : Consistent l) :
    ∃ entries : List (Address × Handle × Loan),
      entries.map (fun entry => (entry.1, entry.2.1)) = l.index ∧
      ∀ entry ∈ entries,
        l.slots[entry.2.1.index]? = some ⟨entry.2.1.generation, some entry.2.2⟩ := by
  have hloan : ∀ entry : { entry // entry ∈ l.index }, ∃ loan,
      l.slots[entry.1.2.index]? = some ⟨entry.1.2.generation, some loan⟩ := by
    rintro ⟨⟨address, handle⟩, hmem⟩
    obtain ⟨loan, hslot, -⟩ := h.indexed hmem
    exact ⟨loan, hslot⟩
  choose loanOf hloanOf using hloan
  refine ⟨l.index.attach.map fun entry => (entry.1.1, entry.1.2, loanOf entry), ?_, ?_⟩
  · simpa [Function.comp_def] using List.attach_map_subtype_val l.index
  · intro entry hentry
    obtain ⟨pair, -, rfl⟩ := List.mem_map.1 hentry
    exact hloanOf pair

/-- Giving up one slot after the other gives the entries that were in them. -/
lemma takeAll_eq (pairs : List (Handle × Loan))
    (hnodup : (pairs.map fun pair => pair.1.index).Nodup)
    (hslots : ∀ pair ∈ pairs, l.slots[pair.1.index]? = some ⟨pair.1.generation, some pair.2⟩) :
    l.takeAll (pairs.map Prod.fst) = pairs.map Prod.snd := by
  induction pairs generalizing l with
  | nil => rfl
  | cons pair pairs ih =>
    simp only [List.map_cons, List.nodup_cons] at hnodup
    rw [List.map_cons, takeAll, take_of_slot (hslots pair List.mem_cons_self), List.map_cons]
    simp only
    rw [ih hnodup.2]
    intro pair' hmem
    have hne : pair.1.index ≠ pair'.1.index :=
      fun heq => hnodup.1 (heq ▸ List.mem_map_of_mem hmem)
    -- the slot given up is not that of another pair
    rw [List.getElem?_set_ne hne]
    exact hslots pair' (List.mem_cons_of_mem _ hmem)

namespace Mirrors

lemma empty : Mirrors Ledger.empty ∅ := ⟨consistent_empty, fun _ => rfl⟩

lemma mem_iff (h : Mirrors l book) {address : Address} :
    address ∈ book ↔ l.contains address = true := by
  rw [Finmap.mem_iff, h.consistent.contains_iff, h.lookup_eq]

/-- The entries of the book are those in the slots to which the index leads. -/
lemma exists_entries (h : Mirrors l book) :
    ∃ entries : List (Address × Handle × Loan),
      entries.map (fun entry => (entry.1, entry.2.1)) = l.index ∧
      l.takeAll (l.index.map Prod.snd) = entries.map (fun entry => entry.2.2) ∧
      book.entries = (entries.map fun entry => (⟨entry.1, entry.2.2⟩ : Σ _ : Address, Loan)) := by
  obtain ⟨entries, hindex, hslots⟩ := h.consistent.exists_entries
  refine ⟨entries, hindex, ?_, ?_⟩
  · have htake := takeAll_eq (l := l) (entries.map Prod.snd)
      (by simpa [← hindex, Function.comp_def] using h.consistent.slots_nodup)
      (by
        intro pair hpair
        obtain ⟨entry, hentry, rfl⟩ := List.mem_map.1 hpair
        exact hslots entry hentry)
    simpa [← hindex, Function.comp_def] using htake
  · -- neither side has an entry twice, so it is enough that they have the same ones
    have hkeys : (entries.map fun entry => (⟨entry.1, entry.2.2⟩ : Σ _ : Address, Loan)).Nodup := by
      apply List.Nodup.of_map Sigma.fst
      simpa [← hindex, Function.comp_def] using h.consistent.addresses_nodup
    rw [Multiset.Nodup.ext book.nodupKeys.nodup (Multiset.coe_nodup.2 hkeys)]
    rintro ⟨address, loan⟩
    rw [← Finmap.lookup_eq_some_iff, h.lookup_eq, h.consistent.loan?_eq_some_iff, ← hindex]
    simp only [Multiset.mem_coe, List.mem_map, Prod.mk.injEq, Sigma.mk.injEq, heq_eq_eq]
    constructor
    · rintro ⟨handle, ⟨entry, hmem, rfl, rfl⟩, hslot⟩
      have hsame := hslots entry hmem
      rw [hslot] at hsame
      simp only [Option.some.injEq, Slot.mk.injEq, true_and] at hsame
      exact ⟨entry, hmem, rfl, hsame.symm⟩
    · rintro ⟨entry, hmem, rfl, rfl⟩
      exact ⟨entry.2.1, ⟨entry, hmem, rfl, rfl⟩, hslots entry hmem⟩

lemma card_eq (h : Mirrors l book) : book.keys.card = l.size := by
  obtain ⟨entries, hindex, -, hbook⟩ := h.exists_entries
  have hcard : book.keys.card = Multiset.card book.entries := Multiset.card_map _ _
  rw [hcard, hbook, size, ← hindex]
  simp

/-- The report on what is lent has one line for each entry of the book. -/
lemma leaks_eq (h : Mirrors l book) :
    (l.close.1 : Multiset Leak) = book.entries.map fun entry => entry.2.leak := by
  obtain ⟨entries, -, htake, hbook⟩ := h.exists_entries
  have hsort : (l.close.1 : Multiset Leak) =
      ((l.takeAll (l.index.map Prod.snd)).map Loan.leak : List Leak) :=
    Multiset.coe_eq_coe.2 (List.mergeSort_perm _ _)
  rw [hsort, htake, hbook]
  simp [Function.comp_def]

lemma free_iff (h : Mirrors l book) {address : Address} :
    book.Free address ↔ l.contains address = false ∧ l.size < capacity := by
  rw [Book.Free, h.mem_iff, h.card_eq, Bool.not_eq_true]

/-- Where the book has room for an entry, the ledger makes it. -/
lemma insert (h : Mirrors l book) (loan : Loan) (hfree : book.Free loan.buffer.address) :
    ∃ handle l', l.insert loan = some (handle, l') ∧
      Mirrors l' (book.insert loan.buffer.address loan) := by
  obtain ⟨hnew, hroom⟩ := h.free_iff.1 hfree
  obtain ⟨⟨handle, l'⟩, hinsert⟩ := Option.isSome_iff_exists.1
    ((insert_isSome_iff h.consistent loan).2 hroom)
  have hi := inserted_of_insert h.consistent hinsert
  refine ⟨handle, l', hinsert, hi.consistent h.consistent hnew, ?_⟩
  intro address
  rw [hi.loan?_eq h.consistent hnew]
  split
  · next heq => rw [heq, Finmap.lookup_insert]
  · next hne => rw [Finmap.lookup_insert_of_ne _ hne, h.lookup_eq]

/-- Registering succeeds exactly where the book has room. -/
lemma register (h : Mirrors l book) (buffer : Buffer) (plugin : PluginId) (call : String) :
    (book.Free buffer.address ∧ ∃ handle l', l.register buffer plugin call = some (handle, l') ∧
      Mirrors l' (book.insert buffer.address ⟨buffer, plugin, call⟩)) ∨
    (¬ book.Free buffer.address ∧ l.register buffer plugin call = none) := by
  by_cases hfree : book.Free buffer.address
  · have hnew := (h.free_iff.1 hfree).1
    obtain ⟨handle, l', hinsert, hmirrors⟩ := h.insert ⟨buffer, plugin, call⟩ hfree
    exact Or.inl ⟨hfree, handle, l', by simp [Ledger.register, hnew, hinsert], hmirrors⟩
  · refine Or.inr ⟨hfree, ?_⟩
    rw [h.free_iff, not_and_or, Bool.not_eq_false] at hfree
    rcases hlive : l.contains buffer.address with _ | _
    · have hfull := hfree.resolve_left (by simp [hlive])
      rw [← insert_isSome_iff h.consistent ⟨buffer, plugin, call⟩, Option.not_isSome_iff_eq_none]
        at hfull
      simp [Ledger.register, hlive, hfull]
    · simp [Ledger.register, hlive]

/-- Releasing succeeds exactly at the addresses in the book. -/
lemma release (h : Mirrors l book) (address : Address) :
    (address ∈ book ∧ ∃ l', l.release address = (.ok (), l') ∧
      Mirrors l' (book.erase address)) ∨
    (address ∉ book ∧ l.release address = (.error .pointerNotFound, l)) := by
  by_cases hmem : address ∈ book
  · obtain ⟨handle, l', hindex, hrelease, hr⟩ := h.consistent.release_ok (h.mem_iff.1 hmem)
    refine Or.inl ⟨hmem, l', hrelease, hr.consistent h.consistent hindex, ?_⟩
    intro other
    rw [hr.loan?_eq h.consistent hindex]
    split
    · next heq => rw [heq, Finmap.lookup_erase]
    · next hne => rw [Finmap.lookup_erase_ne hne, h.lookup_eq]
  · refine Or.inr ⟨hmem, release_of_not_contains ?_⟩
    rw [h.mem_iff, Bool.not_eq_true] at hmem
    exact hmem

/-- One operation: the answers are the same, and so are the entries afterwards. -/
lemma apply (h : Mirrors l book) (operation : Operation) :
    (l.apply operation).1 = (book.apply operation).1 ∧
      Mirrors (l.apply operation).2 (book.apply operation).2 := by
  cases operation with
  | register buffer plugin call =>
    rcases h.register buffer plugin call with ⟨hfree, handle, l', hreg, h'⟩ | ⟨hfree, hreg⟩
    · simp only [Ledger.apply, hreg, Book.apply, hfree, if_true, true_and]
      exact h'
    · simp only [Ledger.apply, hreg, Book.apply, hfree, if_false, true_and]
      exact h
  | lend place contents plugin call =>
    rcases h.register ⟨place, contents⟩ plugin call with ⟨hfree, handle, l', hreg, h'⟩ |
      ⟨hfree, hreg⟩
    · simp only at hfree
      simp only [Ledger.apply, Ledger.lend, hreg, Book.apply, hfree, if_true, true_and]
      exact h'
    · simp only at hfree
      simp only [Ledger.apply, Ledger.lend, hreg, Book.apply, hfree, if_false, true_and]
      exact h
  | release address =>
    rcases h.release address with ⟨hmem, l', hrelease, h'⟩ | ⟨hmem, hrelease⟩
    · simp only [Ledger.apply, hrelease, Book.apply, hmem, if_true, true_and]
      exact h'
    · simp only [Ledger.apply, hrelease, Book.apply, hmem, if_false, true_and]
      exact h
  | close =>
    -- whatever was lent, both begin anew
    refine ⟨?_, Mirrors.empty⟩
    simp only [Ledger.apply, Book.apply, ← h.leaks_eq]

/-- Any number of operations: the answers are the same, and so are the entries afterwards. -/
lemma run (h : Mirrors l book) (operations : List Operation) :
    (l.run operations).1 = (book.run operations).1 ∧
      Mirrors (l.run operations).2 (book.run operations).2 := by
  induction operations generalizing l book with
  | nil => exact ⟨rfl, h⟩
  | cons operation operations ih =>
    obtain ⟨hanswer, h'⟩ := h.apply operation
    obtain ⟨hanswers, h''⟩ := ih h'
    simp only [Ledger.run, Book.run, hanswer, hanswers, true_and]
    exact h''

end Mirrors

end Ledger
end PluginHost
