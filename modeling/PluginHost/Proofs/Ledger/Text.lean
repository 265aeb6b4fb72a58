/-
# Texts that are lent

A text is lent as the octets of its characters up to the first NUL, with a NUL behind them.  The
cut is made between octets, where the text is made of characters: it never goes through one, since
an octet that is zero is a character of its own.  So what is lent is the longest beginning of the
text that has no NUL (`Terminated.Longest`), whole and in UTF-8, and whoever reads it up to the NUL
gets this beginning, whatever stands behind it in memory (`Ledger.lend_ofText`).
-/
import PluginHost.Probe.Sweep
import PluginHost.Proofs.Ledger.Book
import PluginHost.Proofs.Text.Utf8

namespace PluginHost

namespace Terminated

/-- The longest beginning of a text that has no NUL. -/
structure Longest (kept s : String) : Prop where
  /-- It is a beginning of the text. -/
  isPrefix : kept.toList <+: s.toList
  /-- It has no NUL. -/
  noNul : '\x00' ∉ kept.toList
  /-- No beginning without NUL goes further. -/
  longest : ∀ cs, cs <+: s.toList → '\x00' ∉ cs → cs <+: kept.toList

lemma longest_cut (s : String) : Longest (cut s) s := by
  constructor
  · rw [toList_cut]
    exact List.takeWhile_prefix _
  · rw [toList_cut]
    intro hmem
    simpa using List.mem_takeWhile_imp hmem
  · rintro cs ⟨rest, hcs⟩ hnul
    rw [toList_cut, ← hcs, List.takeWhile_append_of_pos
      fun c hc => decide_eq_true (ne_of_mem_of_not_mem hc hnul)]
    exact List.prefix_append _ _

end Terminated

namespace Ledger

/-- **A text is lent up to its first NUL.**  Whatever has been done to the ledger, a text can be
lent at a place where nothing is lent, as long as there is room, and is refused otherwise.  What is
then in memory are the octets of the longest beginning without NUL, none of them zero, and the NUL.
The length that is told is that of the octets in front of the NUL.  They are read as this beginning
up to the NUL, whatever stands behind it, and need no repair for it.  There is room as long as one
of the `2 ^ 32` slots is left, a limit that the ledger sets itself by how it numbers them. -/
theorem lend_ofText (operations : List Operation) (place : Address) (s : String)
    (plugin : PluginId) (call : String) :
    let l := (empty.run operations).2
    let (result, l') := l.lend place (.ofText s) plugin call
    if l.contains place = false ∧ l.size < capacity then
      ∃ kept octets, Terminated.Longest kept s ∧
        result = .ok ⟨place, .text octets⟩ ∧
        l'.loan? place = some ⟨⟨place, .text octets⟩, plugin, call⟩ ∧
        octets ++ [0] = Terminated.store (Utf8.encode s) ∧
        octets = kept.toUTF8.data.toList ∧ (0 : UInt8) ∉ octets ∧
        (Contents.text octets).length = kept.utf8ByteSize ∧
        (∀ behind, Terminated.read (octets ++ 0 :: behind) = kept) ∧
        Utf8.decode? octets = some kept ∧ Sweep.text? (.text octets) = some kept
    else result = .error .internalError ∧ l' = l := by
  intro l
  have hconsistent : Consistent l := (Mirrors.empty.run operations).2.consistent
  split_ifs with hfree
  · obtain ⟨handle, l', hlend, hinserted⟩ :=
      hconsistent.lend_ok hfree.1 hfree.2 (.ofText s) plugin call
    rw [hlend]
    -- the octets end where the characters do, and none of them is zero
    have hstored : Terminated.untilNul (Utf8.encode s) = Utf8.encode (Terminated.cut s) :=
      Terminated.untilNul_encode s
    have hnul : (0 : UInt8) ∉ Utf8.encode (Terminated.cut s) := by
      rw [← hstored]
      exact Terminated.zero_notMem_untilNul _
    have hcontents : Contents.ofText s = .text (Utf8.encode (Terminated.cut s)) :=
      Contents.ofText_eq s
    have hloan := hinserted.loan?_self hconsistent hfree.1
    rw [hcontents] at hloan
    refine ⟨Terminated.cut s, Utf8.encode (Terminated.cut s), Terminated.longest_cut s,
      by rw [hcontents], hloan, by rw [Terminated.store, hstored], Utf8.encode_eq_toUTF8 _, hnul,
      Utf8.size_eq _, fun behind => ?_, Utf8.decode?_encode _, ?_⟩
    · rw [Terminated.read, Terminated.untilNul_append hnul, Utf8.repair_encode]
    · rw [Sweep.text?, Utf8.repair_encode]
  · rw [hconsistent.lend_refused hfree]
    exact ⟨rfl, rfl⟩

/-- A character of two octets stays whole, and what stands behind the NUL is lost. -/
example : (empty.lend (.allocation 0) (.ofText "é\x00é") 3 "get_user_name").1 =
    .ok ⟨.allocation 0, .text [0xC3, 0xA9]⟩ := by rfl

end Ledger
end PluginHost
