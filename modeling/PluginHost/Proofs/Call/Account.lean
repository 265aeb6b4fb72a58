/-
# What plugins hold

Plugins call, one after the other, through either table or with arguments that were read already,
and any plugin may give back any address.  From the answers alone one can tell what is lent: what
a lending call gave, under the name of the call and for the plugin that called, unless its address
was freed later (`unfreed`).

One request does one thing (`Accounted`): a lending call that succeeds adds the buffer that it
gives, which holds what was read; a free that succeeds takes one away; and all else leaves what is
lent alone.  From this follows, by induction on the requests, that the ledger holds what the
answers tell at all times, and that this is what the host reports when it stops
(`Service.serveAll_accounted`).
-/
import PluginHost.Proofs.Call.Failure
import PluginHost.Proofs.Call.Lending
import PluginHost.Proofs.Ledger.Loans

namespace PluginHost

/-- How a plugin calls. -/
inductive CallWay where
  /-- Through an entry of a table. -/
  | entry (table : ApiTable) (call : TableCall) (targets : Targets)
  /-- With arguments that were read already. -/
  | method (call : Call)

/-- The call that is asked for, if nothing is missing that is needed for it. -/
def CallWay.call? : CallWay → Option Call
  | entry table call targets => call.complete? table targets
  | method call => some call

/-- A request of a plugin. -/
structure PluginRequest where
  /-- The thread that it comes from. -/
  thread : Thread
  /-- The plugin. -/
  plugin : PluginId
  /-- How the plugin calls. -/
  way : CallWay

/-- The call that is performed, if nothing is missing that is needed for it. -/
def PluginRequest.call? (r : PluginRequest) : Option Call := r.way.call?

/-- A request and its answer. -/
structure Answered where
  /-- The request. -/
  request : PluginRequest
  /-- The status. -/
  status : Int32
  /-- What was given, if anything was. -/
  reply : Option Reply

namespace Answered

/-- What was lent. -/
def loan? (a : Answered) : Option Loan :=
  match a.reply, a.request.call?.bind Call.lender? with
  | some (.lent buffer), some name => some ⟨buffer, a.request.plugin, name⟩
  | _, _ => none

/-- The address that was freed. -/
def freed? (a : Answered) : Option Address :=
  match a.request.call? with
  | some (.freeMemory address) => if a.status = Status.ok then some address else none
  | _ => none

/-- What is lent after an answer, if it was `loans` before. -/
def after (a : Answered) (loans : List Loan) : List Loan :=
  (loans.filter fun loan => some loan.buffer.address ≠ a.freed?) ++ a.loan?.toList

end Answered

/-- The answer to a request. -/
def PluginRequest.answered (r : PluginRequest) (entered : Entered) : Answered :=
  ⟨r, entered.status, entered.reply⟩

/-- What was lent and not freed later. -/
def unfreed : List Answered → List Loan
  | [] => []
  | a :: later =>
    (a.loan?.toList.filter fun loan => some loan.buffer.address ∉ later.map Answered.freed?) ++
      unfreed later

namespace Service

/-- Serves a request. -/
def serve (s : Service) (r : PluginRequest) : Entered :=
  match r.way with
  | .entry table call targets => table.enter true s r.thread r.plugin call targets
  | .method call =>
    let (result, s') := s.call r.thread r.plugin call
    ApiTable.conclude result s'

/-- Serves requests, one after the other. -/
def serveAll (s : Service) : List PluginRequest → List Answered × Service
  | [] => ([], s)
  | r :: rs =>
    let entered := s.serve r
    let (answers, s') := entered.service.serveAll rs
    (r.answered entered :: answers, s')

/-- The entry of the buffer at an address. -/
def loan? (s : Service) (address : Address) : Option Loan := s.host.ledger.loan? address

end Service

/-- What a request does to what is lent, and what is answered. -/
structure Accounted (s : Service) (r : PluginRequest) (entered : Entered) : Prop where
  /-- A buffer that is given was not lent before, holds what was read, and is entered for the
  plugin under the name of the call; all other entries stay. -/
  lent : ∀ buffer, entered.reply = some (.lent buffer) →
    buffer.address ≠ .null ∧ s.loan? buffer.address = none ∧
    ∃ call name, r.call? = some call ∧ call.lender? = some name ∧
      s.host.reading call = some buffer.contents ∧
      ∀ address, entered.service.loan? address =
        if address = buffer.address then some ⟨buffer, r.plugin, name⟩ else s.loan? address
  /-- A lending call that succeeds gives a buffer. -/
  gives : ∀ call name, r.call? = some call → call.lender? = some name →
    entered.status = Status.ok → ∃ buffer, entered.reply = some (.lent buffer)
  /-- A buffer that is lent can be freed, whoever calls, and its entry goes. -/
  freed : ∀ address loan, r.call? = some (.freeMemory address) → s.loan? address = some loan →
    entered.status = Status.ok ∧
    ∀ other, entered.service.loan? other = if other = address then none else s.loan? other
  /-- At an address where nothing is lent nothing can be freed. -/
  missed : ∀ address, r.call? = some (.freeMemory address) → s.loan? address = none →
    entered.status = ErrorCode.pointerNotFound.raw ∧ entered.service = s
  /-- All else leaves alone what is lent. -/
  kept : (∀ buffer, entered.reply ≠ some (.lent buffer)) →
    (∀ address, r.call? = some (.freeMemory address) → entered.status ≠ Status.ok) →
    ∀ address, entered.service.loan? address = s.loan? address

/-! ## One request -/

namespace Service

/-- What comes of a request, in terms of the ledger. -/
inductive Turn (s : Service) (r : PluginRequest) : Entered → Prop
  /-- Nothing is lent or freed, and a lending call fails. -/
  | spared (entered : Entered) (hrunning : entered.service.running = true)
      (hledger : entered.service.host.ledger = s.host.ledger)
      (hallocator : entered.service.host.allocator = s.host.allocator)
      (hreply : ∀ buffer, entered.reply ≠ some (.lent buffer))
      (hlender : ∀ call name, r.call? = some call → call.lender? = some name →
        entered.status ≠ Status.ok)
      (hfree : ∀ address, r.call? ≠ some (.freeMemory address)) : Turn s r entered
  /-- A buffer is lent, at the place that the allocator has for it. -/
  | lent (host : Host) (call : Call) (name : String) (contents : Contents) (handle : Handle)
      (ledger : Ledger) (hcall : r.call? = some call) (hname : call.lender? = some name)
      (hreading : s.host.reading call = some contents)
      (hnew : s.host.ledger.contains s.host.allocator.fresh = false)
      (hinserted : s.host.ledger.Inserted ⟨⟨s.host.allocator.fresh, contents⟩, r.plugin, name⟩
        handle ledger) :
      Turn s r ⟨Status.ok, some (.lent ⟨s.host.allocator.fresh, contents⟩),
        ⟨{ host with ledger := ledger, allocator := s.host.allocator.advance }, true⟩⟩
  /-- A buffer is freed. -/
  | freed (address : Address) (handle : Handle) (ledger : Ledger)
      (hcall : r.call? = some (.freeMemory address))
      (hmem : (address, handle) ∈ s.host.ledger.index)
      (hremoved : s.host.ledger.Removed address handle ledger) :
      Turn s r ⟨Status.ok, some .unit, ⟨{ s.host with ledger := ledger }, true⟩⟩
  /-- There is nothing to be freed. -/
  | missed (address : Address) (hcall : r.call? = some (.freeMemory address))
      (hnot : s.host.ledger.contains address = false) :
      Turn s r ⟨ErrorCode.pointerNotFound.raw, none, s⟩

variable {s : Service} {r : PluginRequest} {call : Call}

lemma raw_ne_ok (code : ErrorCode) : code.raw ≠ Status.ok := by
  cases code <;> decide

/-- A request that fails, and does not touch the ledger. -/
lemma turn_failed (code : ErrorCode) {service : Service} (hrunning : service.running = true)
    (hledger : service.host.ledger = s.host.ledger)
    (hallocator : service.host.allocator = s.host.allocator)
    (hfree : ∀ address, r.call? ≠ some (.freeMemory address)) :
    Turn s r ⟨code.raw, none, service⟩ := by
  refine .spared _ hrunning hledger hallocator ?_ (fun _ _ _ _ => raw_ne_ok code) hfree
  rintro buffer hreply
  cases hreply

/-- With something missing, nothing is performed but the question whether the caller is
accepted. -/
lemma serve_of_missing (hcall : r.call? = none) :
    ∃ code, s.serve r = ⟨ErrorCode.raw code, none, s⟩ := by
  rcases r with ⟨thread, plugin, ⟨table, call, targets⟩ | call⟩
  · have hservice : (s.call thread plugin .verifyCaller).2 = s := call_verifyCaller
    replace hcall : call.complete? table targets = none := hcall
    simp only [serve, ApiTable.enter, hcall, Bool.not_true, Bool.false_eq_true, if_false, hservice]
    rcases (s.call thread plugin .verifyCaller).1 with _ | code | reply
    · exact ⟨.internalError, rfl⟩
    · exact ⟨code, rfl⟩
    · exact ⟨.genericError, rfl⟩
  · cases hcall

lemma serve_of_call (hcall : r.call? = some call) :
    s.serve r = ApiTable.conclude (s.call r.thread r.plugin call).1
      (s.call r.thread r.plugin call).2 := by
  rcases r with ⟨thread, plugin, ⟨table, tableCall, targets⟩ | call'⟩
  · replace hcall : tableCall.complete? table targets = some call := hcall
    simp only [serve, ApiTable.enter, hcall, Bool.not_true, Bool.false_eq_true, if_false]
  · cases hcall
    rfl

lemma serve_of_result (hrunning : s.running = true) (hcall : r.call? = some call)
    {result : CallResult Reply} {host : Host}
    (hperform : s.host.perform r.plugin call = ⟨some result, host⟩) :
    s.serve r = ApiTable.conclude (some result) (s.withHost host) := by
  rw [serve_of_call hcall, call_of_result r.thread r.plugin call hrunning hperform]

lemma serve_of_crash (hrunning : s.running = true) (hcall : r.call? = some call) {host : Host}
    (hperform : s.host.perform r.plugin call = ⟨none, host⟩) :
    ∃ code, s.serve r = ⟨ErrorCode.raw code, none, s.withHost host⟩ := by
  rw [serve_of_call hcall, call_of_crash r.thread r.plugin call hrunning hperform]
  rcases r.thread with _ | _
  · exact ⟨.internalError, rfl⟩
  · exact ⟨.apiRequestTimeout, rfl⟩

lemma turn_free (hrunning : s.running = true) (hconsistent : s.host.ledger.Consistent)
    {address : Address} (hcall : r.call? = some (.freeMemory address)) :
    Turn s r (s.serve r) := by
  have hservice : ∀ ledger, s.withHost { s.host with ledger := ledger } =
      ⟨{ s.host with ledger := ledger }, true⟩ := by
    intro ledger
    rw [withHost, hrunning]
  rcases hlive : s.host.ledger.contains address with _ | _
  · have hperform : s.host.perform r.plugin (.freeMemory address) =
        ⟨some (.error .pointerNotFound), s.host⟩ := by
      simp only [Host.perform, Host.isOpen, if_true, Host.performAccepted,
        Ledger.release_of_not_contains hlive]
      rfl
    rw [serve_of_result hrunning hcall hperform]
    exact .missed address hcall hlive
  · obtain ⟨handle, ledger, hmem, hrelease, hremoved⟩ := hconsistent.release_ok hlive
    have hperform : s.host.perform r.plugin (.freeMemory address) =
        ⟨some (.ok .unit), { s.host with ledger := ledger }⟩ := by
      simp only [Host.perform, Host.isOpen, if_true, Host.performAccepted, hrelease]
      rfl
    rw [serve_of_result hrunning hcall hperform, hservice]
    exact .freed address handle ledger hcall hmem hremoved

lemma turn_lend (hrunning : s.running = true) (hconsistent : s.host.ledger.Consistent)
    {host : Host} {name : String} {contents : Contents} (hledger : host.ledger = s.host.ledger)
    (hallocator : host.allocator = s.host.allocator) (hcall : r.call? = some call)
    (hname : call.lender? = some name) (hreading : s.host.reading call = some contents)
    (hperform : s.host.perform r.plugin call = host.lend r.plugin name contents) :
    Turn s r (s.serve r) := by
  simp only [Host.lend, Ledger.lend, hledger, hallocator] at hperform
  rcases hregister : s.host.ledger.register ⟨s.host.allocator.fresh, contents⟩ r.plugin name with
    _ | ⟨handle, ledger⟩
  · -- the ledger refuses the buffer
    simp only [hregister] at hperform
    rw [serve_of_result hrunning hcall hperform]
    refine turn_failed .internalError hrunning hledger hallocator ?_
    rintro address hfree
    rw [hcall] at hfree
    cases hfree
    cases hname
  · simp only [hregister] at hperform
    rw [serve_of_result hrunning hcall hperform, withHost, hrunning]
    unfold Ledger.register at hregister
    split_ifs at hregister with hlive
    exact .lent host call name contents handle ledger hcall hname hreading
      (Bool.eq_false_of_not_eq_true hlive) (Ledger.inserted_of_insert hconsistent hregister)

lemma turn_spare (hrunning : s.running = true) (hcall : r.call? = some call)
    (hfree : ∀ address, call ≠ .freeMemory address)
    (hspares : (s.host.perform r.plugin call).Spares s.host)
    (hlender : call.lender? ≠ none → ∃ code, s.host.perform r.plugin call = s.host.refuse code) :
    Turn s r (s.serve r) := by
  have hother : ∀ address, r.call? ≠ some (.freeMemory address) := by
    intro address heq
    rw [hcall] at heq
    exact hfree address (Option.some.inj heq)
  rcases hperform : s.host.perform r.plugin call with ⟨_ | code | reply, host⟩
  · rw [hperform] at hspares
    obtain ⟨code, hserve⟩ := serve_of_crash hrunning hcall hperform
    rw [hserve]
    exact turn_failed code hrunning hspares.ledger_eq hspares.allocator_eq hother
  · rw [hperform] at hspares
    rw [serve_of_result hrunning hcall hperform]
    exact turn_failed code hrunning hspares.ledger_eq hspares.allocator_eq hother
  · rw [hperform] at hspares hlender
    rw [serve_of_result hrunning hcall hperform]
    refine .spared _ hrunning hspares.ledger_eq hspares.allocator_eq ?_ ?_ hother
    · rintro buffer hreply
      cases hreply
      exact hspares.reply_ne buffer rfl
    · -- an answered call that does not lend is none that could
      intro call' name hcall' hname
      rw [hcall] at hcall'
      cases hcall'
      obtain ⟨code, hcode⟩ := hlender (by simp [hname])
      cases hcode

/-- Every request takes one of these turns. -/
lemma serve_turn (hrunning : s.running = true) (hconsistent : s.host.ledger.Consistent)
    (r : PluginRequest) : Turn s r (s.serve r) := by
  rcases hcall : r.call? with _ | call
  · obtain ⟨code, hserve⟩ := serve_of_missing (s := s) hcall
    rw [hserve]
    exact turn_failed code hrunning rfl rfl (by simp [hcall])
  by_cases hfree : ∃ address, call = .freeMemory address
  · obtain ⟨address, rfl⟩ := hfree
    exact turn_free hrunning hconsistent hcall
  have hentry := s.host.perform_entry r.plugin call
  generalize houtcome : s.host.perform r.plugin call = outcome at hentry
  cases hentry with
  | spared _ hspares hlender =>
    subst houtcome
    exact turn_spare hrunning hcall (fun address h => hfree ⟨address, h⟩) hspares hlender
  | lent host name contents hledger hallocator hname hreading =>
    exact turn_lend hrunning hconsistent hledger hallocator hcall hname hreading houtcome
  | freed address hfreed => exact absurd ⟨address, hfreed⟩ hfree

namespace Turn

variable {entered : Entered}

lemma running (hturn : Turn s r entered) (hrunning : s.running = true) :
    entered.service.running = true := by
  cases hturn with
  | spared _ hrunning' _ _ _ _ _ => exact hrunning'
  | lent => rfl
  | freed => rfl
  | missed => exact hrunning

lemma consistent (hturn : Turn s r entered) (hconsistent : s.host.ledger.Consistent) :
    entered.service.host.ledger.Consistent := by
  cases hturn with
  | spared _ _ hledger _ _ _ _ =>
    rw [hledger]
    exact hconsistent
  | lent host call name contents handle ledger _ _ _ hnew hinserted =>
    exact hinserted.consistent hconsistent hnew
  | freed address handle ledger _ hmem hremoved => exact hremoved.consistent hconsistent hmem
  | missed => exact hconsistent

lemma place_eq (hturn : Turn s r entered) :
    entered.service.host.allocator.place = s.host.allocator.place := by
  cases hturn with
  | spared _ _ _ hallocator _ _ _ => rw [hallocator]
  | lent => rfl
  | freed => rfl
  | missed => rfl

lemma accounted (hturn : Turn s r entered) (hconsistent : s.host.ledger.Consistent)
    (hnull : ∀ n, s.host.allocator.place n ≠ .null) : Accounted s r entered := by
  cases hturn with
  | spared _ _ hledger _ hreply hlender hfree =>
    constructor
    · intro buffer hlent
      exact absurd hlent (hreply buffer)
    · intro call name hcall hname hstatus
      exact absurd hstatus (hlender call name hcall hname)
    · intro address loan hcall
      exact absurd hcall (hfree address)
    · intro address hcall
      exact absurd hcall (hfree address)
    · intro _ _ address
      rw [loan?, loan?, hledger]
  | lent host call name contents handle ledger hcall hname hreading hnew hinserted =>
    have hfree : ∀ address, r.call? ≠ some (.freeMemory address) := by
      intro address hfree
      rw [hcall] at hfree
      cases hfree
      cases hname
    constructor
    · rintro buffer hlent
      cases hlent
      exact ⟨hnull _, hconsistent.loan?_eq_none_iff.2 hnew, call, name, hcall, hname, hreading,
        hinserted.loan?_eq hconsistent hnew⟩
    · intro _ _ _ _ _
      exact ⟨_, rfl⟩
    · intro address loan hcall'
      exact absurd hcall' (hfree address)
    · intro address hcall'
      exact absurd hcall' (hfree address)
    · intro hreply
      exact absurd rfl (hreply _)
  | freed address handle ledger hcall hmem hremoved =>
    have hsame : ∀ other, r.call? = some (.freeMemory other) → other = address := by
      intro other hcall'
      rw [hcall] at hcall'
      cases hcall'
      rfl
    constructor
    · intro buffer hlent
      cases hlent
    · intro call name hcall' hname
      rw [hcall] at hcall'
      cases hcall'
      cases hname
    · intro other loan hcall' _
      rw [hsame other hcall']
      exact ⟨rfl, hremoved.loan?_eq hconsistent hmem⟩
    · intro other hcall' hnone
      -- the ledger finds what its index knows
      rw [hsame other hcall', loan?, hconsistent.loan?_eq_none_iff, ← Bool.not_eq_true,
        hconsistent.contains_iff_mem] at hnone
      exact absurd (List.mem_map_of_mem hmem) hnone
    · intro _ hstatus
      exact absurd rfl (hstatus address hcall)
  | missed address hcall hnot =>
    have hsame : ∀ other, r.call? = some (.freeMemory other) → other = address := by
      intro other hcall'
      rw [hcall] at hcall'
      cases hcall'
      rfl
    constructor
    · intro buffer hlent
      cases hlent
    · intro call name hcall' hname
      rw [hcall] at hcall'
      cases hcall'
      cases hname
    · intro other loan hcall' hloan
      rw [hsame other hcall', loan?, hconsistent.loan?_eq_none_iff.2 hnot] at hloan
      cases hloan
    · intro _ _ _
      exact ⟨rfl, rfl⟩
    · intro _ _ _
      rfl

lemma loans_perm (hturn : Turn s r entered) (hconsistent : s.host.ledger.Consistent) :
    entered.service.host.ledger.loans.Perm ((r.answered entered).after s.host.ledger.loans) := by
  cases hturn with
  | spared _ _ hledger _ hreply _ hfree =>
    have hfreed : (r.answered entered).freed? = none := by
      unfold Answered.freed?
      split
      · next address hcall => exact absurd hcall (hfree address)
      · rfl
    have hloan : (r.answered entered).loan? = none := by
      unfold Answered.loan?
      split
      · next buffer name hlent _ => exact absurd hlent (hreply buffer)
      · rfl
    simp [Answered.after, hfreed, hloan, hledger]
  | lent host call name contents handle ledger hcall hname hreading hnew hinserted =>
    generalize hanswered : r.answered _ = a
    have hfreed : a.freed? = none := by
      subst hanswered
      unfold Answered.freed?
      split
      · next address hfree =>
        replace hfree : r.call? = some (.freeMemory address) := hfree
        rw [hcall] at hfree
        cases hfree
        cases hname
      · rfl
    have hloan : a.loan? = some ⟨⟨s.host.allocator.fresh, contents⟩, r.plugin, name⟩ := by
      subst hanswered
      simp [Answered.loan?, PluginRequest.answered, hcall, hname]
    refine (hinserted.loans_perm hconsistent hnew).trans ?_
    simpa [Answered.after, hfreed, hloan] using (List.perm_append_singleton _ _).symm
  | freed address handle ledger hcall hmem hremoved =>
    generalize hanswered : r.answered _ = a
    have hfreed : a.freed? = some address := by
      subst hanswered
      simp [Answered.freed?, PluginRequest.answered, hcall]
    have hloan : a.loan? = none := by
      subst hanswered
      rfl
    simpa [Answered.after, hfreed, hloan] using hremoved.loans_perm hconsistent hmem
  | missed address hcall hnot =>
    generalize hanswered : r.answered _ = a
    have hfreed : a.freed? = none := by
      subst hanswered
      simp [Answered.freed?, PluginRequest.answered, hcall, raw_ne_ok]
    have hloan : a.loan? = none := by
      subst hanswered
      rfl
    simp [Answered.after, hfreed, hloan]

end Turn

/-! ## Many requests -/

/-- What is lent after requests: what was lent before and has not been freed, and what was lent by
them and not freed later. -/
lemma serveAll_perm (hrunning : s.running = true) (hconsistent : s.host.ledger.Consistent)
    (rs : List PluginRequest) :
    (s.serveAll rs).2.running = true ∧ (s.serveAll rs).2.host.ledger.Consistent ∧
      (s.serveAll rs).2.host.allocator.place = s.host.allocator.place ∧
      (s.serveAll rs).2.host.ledger.loans.Perm
        ((s.host.ledger.loans.filter fun loan =>
          some loan.buffer.address ∉ (s.serveAll rs).1.map Answered.freed?) ++
          unfreed (s.serveAll rs).1) := by
  induction rs generalizing s with
  | nil => simp [serveAll, unfreed, hrunning, hconsistent]
  | cons r rs ih =>
    have hturn := serve_turn hrunning hconsistent r
    obtain ⟨hrunning', hconsistent', hplace, hperm⟩ :=
      ih (hturn.running hrunning) (hturn.consistent hconsistent)
    refine ⟨hrunning', hconsistent', hplace.trans hturn.place_eq, hperm.trans ?_⟩
    -- what the first request lent is kept under the same condition as what was there before
    refine (((hturn.loans_perm hconsistent).filter _).append_right _).trans ?_
    simp only [serveAll, unfreed, Answered.after, List.filter_append, List.filter_filter,
      List.map_cons, List.mem_cons, not_or, List.append_assoc]
    refine List.Perm.append_right _ (List.Perm.of_eq (List.filter_congr fun loan _ => ?_))
    simp [Bool.and_comm]

lemma exists_lent_of_mem_unfreed {answers : List Answered} {loan : Loan}
    (hmem : loan ∈ unfreed answers) : ∃ a ∈ answers, a.loan? = some loan := by
  induction answers with
  | nil => cases hmem
  | cons a later ih =>
    rw [unfreed, List.mem_append, List.mem_filter, Option.mem_toList] at hmem
    rcases hmem with ⟨hloan, -⟩ | hmem
    · exact ⟨a, List.mem_cons_self, hloan⟩
    · obtain ⟨a', ha', hloan⟩ := ih hmem
      exact ⟨a', List.mem_cons_of_mem _ ha', hloan⟩

/-- Where nothing is lent, nothing is until something is lent there again. -/
lemma serveAll_none (hrunning : s.running = true) (hconsistent : s.host.ledger.Consistent)
    {address : Address} (hnone : s.loan? address = none) (rs : List PluginRequest)
    (hlent : ∀ a ∈ (s.serveAll rs).1, ∀ loan, a.loan? = some loan →
      loan.buffer.address ≠ address) :
    (s.serveAll rs).2.loan? address = none := by
  obtain ⟨-, hconsistent', -, hperm⟩ := serveAll_perm hrunning hconsistent rs
  rw [Option.eq_none_iff_forall_not_mem]
  intro loan hloan
  have haddress : loan.buffer.address = address := hconsistent'.address_of_loan? hloan
  subst haddress
  rcases List.mem_append.1 (hperm.mem_iff.1 (hconsistent'.mem_loans.2 hloan)) with hmem | hmem
  · -- it would have been lent from the beginning
    have hold := hconsistent.mem_loans.1 (List.mem_filter.1 hmem).1
    replace hnone : s.host.ledger.loan? loan.buffer.address = none := hnone
    rw [hnone] at hold
    cases hold
  · obtain ⟨a, ha, hloan'⟩ := exists_lent_of_mem_unfreed hmem
    exact hlent a ha loan hloan' rfl

/-- **What is lent is what the answers tell.**  A host begins with nothing lent and serves any
requests; whatever comes next does one of the things listed in `Accounted`.  What is lent then are
the buffers that were given and not freed later, each at an address of its own.  An address that
was freed cannot be freed again, by whomever, until a buffer is lent there.  And when the host
stops, it reports each of these buffers once. -/
theorem serveAll_accounted (s : Service) (hreach : s.host.Reachable) (hrunning : s.running = true)
    (hnone : s.host.ledger.isEmpty = true) (hnull : ∀ n, s.host.allocator.place n ≠ .null)
    (rs : List PluginRequest) :
    let held := unfreed (s.serveAll rs).1
    let after := (s.serveAll rs).2
    (∀ r, Accounted after r (after.serve r)) ∧
    (∀ address loan, after.loan? address = some loan ↔
      loan ∈ held ∧ loan.buffer.address = address) ∧
    (held.map fun loan => loan.buffer.address).Nodup ∧
    (∀ address r rs' r', r.call? = some (.freeMemory address) →
      (after.serve r).status = Status.ok →
      (∀ a ∈ ((after.serve r).service.serveAll rs').1, ∀ loan, a.loan? = some loan →
        loan.buffer.address ≠ address) →
      r'.call? = some (.freeMemory address) →
      (((after.serve r).service.serveAll rs').2.serve r').status =
        ErrorCode.pointerNotFound.raw) ∧
    ∃ leaks, after.stop.1 = some leaks ∧ leaks.Perm (held.map Loan.leak) := by
  intro held after
  obtain ⟨hrunning', hconsistent, hplace, hperm⟩ := serveAll_perm hrunning hreach.consistent rs
  have hempty : s.host.ledger.loans = [] := by
    rw [← List.length_eq_zero_iff, hreach.consistent.length_loans, Ledger.size,
      List.isEmpty_iff.1 hnone, List.length_nil]
  rw [hempty, List.filter_nil, List.nil_append] at hperm
  change after.host.ledger.loans.Perm held at hperm
  have hturn : ∀ r, Turn after r (after.serve r) := serve_turn hrunning' hconsistent
  have haccounted : ∀ r, Accounted after r (after.serve r) := by
    intro r
    refine (hturn r).accounted hconsistent ?_
    rw [hplace]
    exact hnull
  refine ⟨haccounted, ?_, ?_, ?_, ?_⟩
  · intro address loan
    rw [← hperm.mem_iff, hconsistent.mem_loans]
    constructor
    · intro hloan
      have haddress := hconsistent.address_of_loan? hloan
      subst haddress
      exact ⟨hloan, rfl⟩
    · rintro ⟨hloan, rfl⟩
      exact hloan
  · rw [← (hperm.map _).nodup_iff, hconsistent.loans_eq.1]
    exact hconsistent.addresses_nodup
  · intro address r rs' r' hcall hstatus hlent hcall'
    -- the address was lent, or else the free would have failed
    rcases hloan : after.loan? address with _ | loan
    · rw [((haccounted r).missed address hcall hloan).1] at hstatus
      exact absurd hstatus (raw_ne_ok _)
    have hgone := ((haccounted r).freed address loan hcall hloan).2 address
    rw [if_pos rfl] at hgone
    have hrunning₁ := (hturn r).running hrunning'
    have hconsistent₁ := (hturn r).consistent hconsistent
    obtain ⟨hrunning₂, hconsistent₂, hplace₂, -⟩ := serveAll_perm hrunning₁ hconsistent₁ rs'
    have hnone₂ := serveAll_none hrunning₁ hconsistent₁ hgone rs' hlent
    have haccounted₂ := (serve_turn hrunning₂ hconsistent₂ r').accounted hconsistent₂ (by
      rw [hplace₂, (hturn r).place_eq, hplace]
      exact hnull)
    exact (haccounted₂.missed address hcall' hnone₂).1
  · refine ⟨after.host.ledger.close.1, ?_, after.host.ledger.close_perm.trans (hperm.map _)⟩
    rw [stop, if_pos hrunning']

/-- Of two buffers lent to one plugin, one is freed by another plugin, and the other leaks. -/
theorem serveAll_accounted_lonely :
    let rs : List PluginRequest :=
      [⟨.plugin, 3, .entry .v1_0 (.plain (.onSession 0 (.getUserName 1))) ⟨true, true⟩⟩,
        ⟨.plugin, 3, .method (.onSession 0 .getServerHash)⟩,
        ⟨.plugin, 77, .entry .v1_2 (.plain (.freeMemory (.allocation 0))) ⟨false, false⟩⟩]
    let after := ((⟨.lonely, true⟩ : Service).serveAll rs).2
    (∀ n, Host.lonely.allocator.place n ≠ .null) ∧
    after.loan? (.allocation 1) =
      some ⟨⟨.allocation 1, .text [48, 49, 48, 50]⟩, 3, "get_server_hash"⟩ ∧
    ∃ leaks, after.stop.1 = some leaks ∧ leaks.Perm [⟨3, "get_server_hash", "text"⟩] := by
  intro rs after
  have hnull : ∀ n, Host.lonely.allocator.place n ≠ .null := nofun
  obtain ⟨-, -, -, -, hleaks⟩ :=
    serveAll_accounted ⟨.lonely, true⟩ Host.reachable_lonely rfl rfl hnull rs
  exact ⟨hnull, rfl, hleaks⟩

end Service

end PluginHost
