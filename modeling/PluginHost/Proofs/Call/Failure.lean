/-
# Calls that fail

A call that fails must not have done anything.  For calls that are refused this is plain from what
a call can do (`Host.Effect`), but for one case: a text that was fetched is written into the
directory before it is lent, so a ledger that refused the buffer would leave the directory
changed.  That does not happen as long as the allocator finds a place that is not in use, and not
all slots of the ledger are.

An entry of a function table adds that the places for results stay as they were
(`ApiTable.enter_failed`).
-/
import PluginHost.Proofs.Call.Effect
import PluginHost.Table

namespace PluginHost

namespace Host

variable {h : Host} {plugin : PluginId}

/-- Whatever comes of a call, it is answered or has not changed the host. -/
lemma Effect.answered_or_unchanged (hconsistent : h.ledger.Consistent)
    (hfresh : h.ledger.contains h.allocator.fresh = false)
    (hroom : h.ledger.size < Ledger.capacity) {outcome : Outcome}
    (heffect : Effect h plugin outcome) :
    (∃ reply, outcome.result = some (.ok reply)) ∨ outcome.host = h := by
  cases heffect with
  | refused code hcode => exact .inr rfl
  | crashed => exact .inr rfl
  | answered host reply hledger hallocator => exact .inl ⟨reply, rfl⟩
  | freed address ledger hrelease => exact .inl ⟨.unit, rfl⟩
  | lent host name contents hledger hallocator =>
    -- with a place and a slot the ledger takes the buffer, so the call is answered
    rw [← hallocator] at hfresh
    obtain ⟨handle, ledger, hlend, -⟩ := hconsistent.lend_ok hfresh hroom contents plugin name
    refine .inl ⟨.lent ⟨host.allocator.fresh, contents⟩, ?_⟩
    simp [lend, hledger, hlend, answer]
  | missed address code ledger hrelease =>
    refine .inr ?_
    have hlive : h.ledger.contains address = false := by
      -- a consistent ledger frees every buffer that it knows
      by_contra hlive
      obtain ⟨_, ledger', -, hreleased, -⟩ :=
        hconsistent.release_ok (eq_true_of_ne_false hlive)
      rw [hreleased] at hrelease
      cases hrelease
    rw [Ledger.release_of_not_contains hlive] at hrelease
    cases hrelease
    rfl

variable (h plugin) in
/-- To ask whether the caller is accepted changes nothing. -/
lemma perform_verifyCaller_host : (h.perform plugin .verifyCaller).host = h := by
  simp only [perform, isOpen, performAccepted]
  rcases h.verifyPlugin plugin with code | ⟨⟩
  · rfl
  · rfl

end Host

namespace Service

variable {s : Service} {thread : Thread} {plugin : PluginId} {call : Call}

lemma withHost_self : s.withHost s.host = s := rfl

/-- A call that is not answered leaves everything as it was. -/
lemma call_failed (hreach : s.host.Reachable)
    (hfresh : s.host.ledger.contains s.host.allocator.fresh = false)
    (hroom : s.host.ledger.size < Ledger.capacity)
    (hfailed : ∀ reply, (s.call thread plugin call).1 ≠ some (.ok reply)) :
    (s.call thread plugin call).2 = s := by
  rcases hrunning : s.running with _ | _
  · rw [call_of_stopped thread plugin call hrunning]
  obtain ⟨reply, hreply⟩ | hhost :=
    (s.host.perform_effect plugin call).answered_or_unchanged hreach.consistent hfresh hroom
  · exfalso
    rcases hperform : s.host.perform plugin call with ⟨result, host⟩
    obtain rfl : result = some (.ok reply) := by
      rw [← hreply, hperform]
    refine hfailed reply ?_
    rw [call_of_result thread plugin call hrunning hperform]
  · rw [call_service thread plugin call hrunning, hhost, withHost_self]

lemma call_verifyCaller : (s.call thread plugin .verifyCaller).2 = s := by
  rcases hrunning : s.running with _ | _
  · rw [call_of_stopped thread plugin _ hrunning]
  · rw [call_service thread plugin _ hrunning, Host.perform_verifyCaller_host, withHost_self]

end Service

/-! ## The places for results -/

/-- The places that a caller gives for results, with what is in them. -/
structure OutParameters where
  /-- The place for the result, unless its address is missing. -/
  out : Option Reply
  /-- The place for the number of elements, unless its address is missing. -/
  count : Option Nat
deriving DecidableEq, Repr

namespace OutParameters

/-- Which places there are. -/
def targets (p : OutParameters) : Targets := ⟨p.out.isSome, p.count.isSome⟩

/-- Writes a result.  Of a buffer the address is written, and of a list also how many elements it
has; a call that gives nothing writes nothing. -/
def store (p : OutParameters) : Reply → OutParameters
  | .unit => p
  | .lent ⟨address, .text octets⟩ =>
    { p with out := p.out.map fun _ => .lent ⟨address, .text octets⟩ }
  | .lent ⟨address, list⟩ =>
    ⟨p.out.map fun _ => .lent ⟨address, list⟩, p.count.map fun _ => list.length⟩
  | reply => { p with out := p.out.map fun _ => reply }

/-- The places after an entry was called with them. -/
def after (p : OutParameters) (entered : Entered) : OutParameters :=
  (entered.reply.map p.store).getD p

end OutParameters

namespace ApiTable

lemma conclude_failed {result : Option (CallResult Reply)} {service : Service}
    (hstatus : (conclude result service).status ≠ Status.ok) :
    (conclude result service).reply = none ∧ ∀ reply, result ≠ some (.ok reply) := by
  rcases result with _ | code | reply
  · exact ⟨rfl, fun _ h => by cases h⟩
  · exact ⟨rfl, fun _ h => by cases h⟩
  · exact absurd rfl hstatus

lemma conclude_service (result : Option (CallResult Reply)) (service : Service) :
    (conclude result service).service = service := by
  rcases result with _ | code | reply <;> rfl

lemma concludeMissing_eq (result : Option (CallResult Reply)) (service : Service) :
    (concludeMissing result service).reply = none ∧
      (concludeMissing result service).service = service := by
  rcases result with _ | code | reply <;> exact ⟨rfl, rfl⟩

/-- An entry that does not return the status of success has left everything as it was: the places
that its caller gives for results, and the host with all that belongs to it. -/
theorem enter_failed (table : ApiTable) (installed : Bool) {service : Service}
    (hreach : service.host.Reachable)
    (hfresh : service.host.ledger.contains service.host.allocator.fresh = false)
    (hroom : service.host.ledger.size < Ledger.capacity)
    (thread : Thread) (plugin : PluginId) (call : TableCall) (before : OutParameters)
    (hstatus : (table.enter installed service thread plugin call before.targets).status ≠
      Status.ok) :
    before.after (table.enter installed service thread plugin call before.targets) = before ∧
      (table.enter installed service thread plugin call before.targets).service = service := by
  suffices hentered :
      (table.enter installed service thread plugin call before.targets).reply = none ∧
        (table.enter installed service thread plugin call before.targets).service = service by
    refine ⟨?_, hentered.2⟩
    rw [OutParameters.after, hentered.1]
    rfl
  unfold enter at hstatus ⊢
  rcases installed with _ | _
  · exact ⟨rfl, rfl⟩
  rcases hread : call.complete? table before.targets with _ | read
  · -- an address is missing: all that is performed is the question whether the caller is accepted
    simp only [Bool.not_true, Bool.false_eq_true, if_false]
    rw [Service.call_verifyCaller]
    exact concludeMissing_eq _ service
  · simp only [hread, Bool.not_true, Bool.false_eq_true, if_false] at hstatus ⊢
    obtain ⟨hreply, hfailed⟩ := conclude_failed hstatus
    refine ⟨hreply, ?_⟩
    rw [conclude_service]
    exact Service.call_failed hreach hfresh hroom hfailed

theorem enter_failed_getUserName :
    let call := TableCall.plain (.onSession 0 (.getUserName 42))
    let before : OutParameters := ⟨some (.connection 77), none⟩
    let entered := ApiTable.v1_2.enter true ⟨.lonely, true⟩ .plugin 3 call before.targets
    entered.status = ErrorCode.userNotFound.raw ∧ before.after entered = before ∧
      entered.service = ⟨.lonely, true⟩ :=
  ⟨rfl, @enter_failed .v1_2 true ⟨.lonely, true⟩ Host.reachable_lonely rfl (by decide) .plugin 3
    (.plain (.onSession 0 (.getUserName 42))) ⟨some (.connection 77), none⟩ (by decide)⟩

end ApiTable

end PluginHost
