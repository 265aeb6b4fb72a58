/-
# The entries of a ledger as a list

What a ledger reports when it is closed are its entries in the order of its index
(`Ledger.loans`).  A consistent ledger lists every entry once, an insertion adds one to the
list, and a release takes away the one with its address.
-/
import PluginHost.Proofs.Ledger.Book

namespace PluginHost

namespace Ledger

/-- The entries, in the order of the index. -/
def loans (l : Ledger) : List Loan := l.takeAll (l.index.map Prod.snd)

variable {l l' : Ledger} {loan : Loan} {handle : Handle}

namespace Consistent

lemma loans_eq (h : Consistent l) :
    l.loans.map (fun loan => loan.buffer.address) = l.index.map Prod.fst ∧
      ∀ loan, loan ∈ l.loans ↔ l.loan? loan.buffer.address = some loan := by
  obtain ⟨entries, hindex, hslots⟩ := h.exists_entries
  have hloans : l.loans = entries.map fun entry => entry.2.2 := by
    have htake := takeAll_eq (l := l) (entries.map Prod.snd)
      (by simpa [← hindex, Function.comp_def] using h.slots_nodup)
      (by
        intro pair hpair
        obtain ⟨entry, hentry, rfl⟩ := List.mem_map.1 hpair
        exact hslots entry hentry)
    simpa [loans, ← hindex, Function.comp_def] using htake
  have haddress : ∀ entry ∈ entries, entry.2.2.buffer.address = entry.1 := by
    intro entry hentry
    have hmem : (entry.1, entry.2.1) ∈ l.index := by
      rw [← hindex]
      exact List.mem_map_of_mem hentry
    obtain ⟨loan, hslot, haddress⟩ := h.indexed hmem
    rw [hslots entry hentry] at hslot
    obtain rfl : entry.2.2 = loan := by simpa using hslot
    exact haddress
  refine ⟨?_, fun loan => ?_⟩
  · rw [hloans, ← hindex, List.map_map, List.map_map]
    exact List.map_congr_left haddress
  · rw [h.loan?_eq_some_iff, hloans, List.mem_map]
    constructor
    · rintro ⟨entry, hentry, rfl⟩
      refine ⟨entry.2.1, ?_, hslots entry hentry⟩
      rw [haddress entry hentry, ← hindex]
      exact List.mem_map_of_mem hentry
    · rintro ⟨handle, hmem, hslot⟩
      rw [← hindex] at hmem
      obtain ⟨entry, hentry, hpair⟩ := List.mem_map.1 hmem
      obtain ⟨-, rfl⟩ := Prod.mk.inj hpair
      rw [hslots entry hentry] at hslot
      exact ⟨entry, hentry, by simpa using hslot⟩

lemma mem_loans (h : Consistent l) : loan ∈ l.loans ↔ l.loan? loan.buffer.address = some loan :=
  h.loans_eq.2 loan

lemma loans_nodup (h : Consistent l) : l.loans.Nodup := by
  refine List.Nodup.of_map (fun loan => loan.buffer.address) ?_
  rw [h.loans_eq.1]
  exact h.addresses_nodup

lemma length_loans (h : Consistent l) : l.loans.length = l.size := by
  rw [size, ← List.length_map Prod.fst, ← h.loans_eq.1, List.length_map]

/-- An entry that is found at an address is that of a buffer at this address. -/
lemma address_of_loan? (h : Consistent l) {address : Address}
    (hloan : l.loan? address = some loan) : loan.buffer.address = address :=
  (h.loan?_eq_some_iff_used.1 hloan).1

end Consistent

/-- An insertion adds one entry to the list. -/
lemma Inserted.loans_perm (h : Consistent l) (hi : Inserted l loan handle l')
    (hnew : l.contains loan.buffer.address = false) : l'.loans.Perm (loan :: l.loans) := by
  have h' := hi.consistent h hnew
  have hnone := h.loan?_eq_none_iff.2 hnew
  have hnodup : (loan :: l.loans).Nodup := by
    rw [List.nodup_cons, h.mem_loans, hnone]
    exact ⟨by simp, h.loans_nodup⟩
  rw [List.perm_ext_iff_of_nodup h'.loans_nodup hnodup]
  intro other
  rw [h'.mem_loans, List.mem_cons, h.mem_loans, hi.loan?_eq h hnew]
  split
  · next heq =>
    -- nothing else was at this address
    rw [heq, hnone]
    simp [eq_comm]
  · next hne =>
    have hother : other ≠ loan := by
      rintro rfl
      exact hne rfl
    simp [hother]

/-- A release takes the entry with its address from the list. -/
lemma Removed.loans_perm (h : Consistent l) {address : Address}
    (hmem : (address, handle) ∈ l.index) (hr : Removed l address handle l') :
    l'.loans.Perm (l.loans.filter fun loan => loan.buffer.address ≠ address) := by
  have h' := hr.consistent h hmem
  rw [List.perm_ext_iff_of_nodup h'.loans_nodup (h.loans_nodup.filter _)]
  intro other
  rw [h'.mem_loans, List.mem_filter, h.mem_loans, hr.loan?_eq h hmem]
  split
  · next heq => simp [heq]
  · next hne => simp [hne]

/-- Where nothing is lent, a buffer can be lent and freed at once, and then nothing is lent. -/
lemma Consistent.lend_release (h : Consistent l) (hsize : l.size = 0) (place : Address)
    (contents : Contents) (plugin : PluginId) (name : String) :
    ∃ lent freed : Ledger, l.lend place contents plugin name = (.ok ⟨place, contents⟩, lent) ∧
      lent.release place = (.ok (), freed) ∧ freed.Consistent ∧ freed.size = 0 := by
  have hindex : l.index = [] := List.length_eq_zero_iff.1 hsize
  have hnew : l.contains place = false := by
    rw [contains, hindex]
    rfl
  have hroom : l.size < capacity := by
    rw [hsize]
    decide
  obtain ⟨handle, lent, hlend, hinserted⟩ := h.lend_ok hnew hroom contents plugin name
  have hlent : lent.Consistent := hinserted.consistent h hnew
  have hmem : (place, handle) ∈ lent.index := by
    rw [hinserted.index_eq, hindex]
    exact List.mem_singleton.2 rfl
  obtain ⟨freed, hrelease, hremoved⟩ := release_of_mem hlent hmem
  refine ⟨lent, freed, hlend, hrelease, hremoved.consistent hlent hmem, ?_⟩
  rw [size, hremoved.index_eq, hinserted.index_eq, hindex]
  simp

/-- What is reported in the end are the entries. -/
lemma close_perm (l : Ledger) : l.close.1.Perm (l.loans.map Loan.leak) :=
  List.mergeSort_perm _ _

end Ledger
end PluginHost
