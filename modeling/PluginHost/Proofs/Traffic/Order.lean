/-
# One order for all calls

However the steps of many callers, their time bounds and the host fall together, it looks as if the
calls had been performed one after another.  The order is the one in which the host performs them:
after every step the host is what these calls, one after another, make of it, and every result is
what the call gives in its place of that order (`Traced`).

The order respects time, for a simple reason.  When a caller has returned, it is settled whether its
call is in the order; a call that is made only then comes behind it, as calls are only ever added at
the end.  Calls that time out, or that find the mailbox closed, are not in the order.

`Linearization` puts together what it means for an order to explain a run, and `linearizable` says
that there always is one.
-/
import PluginHost.Proofs.Traffic.System

namespace PluginHost

/-- The host after some calls, one after another. -/
def Host.performAll (h : Host) (demands : List Demand) : Host :=
  demands.foldl (fun h demand => (h.perform demand.plugin demand.call).host) h

lemma Host.performAll_append (h : Host) (demands demands' : List Demand) :
    h.performAll (demands ++ demands') = (h.performAll demands).performAll demands' :=
  List.foldl_append

/-- It is the host of a service that is given these calls one after another. -/
lemma Host.performAll_eq_call (h : Host) (demands : List Demand) :
    demands.foldl (fun s demand => (s.call .plugin demand.plugin demand.call).2)
      (⟨h, true⟩ : Service) = ⟨h.performAll demands, true⟩ := by
  induction demands generalizing h with
  | nil => rfl
  | cons demand demands ih =>
    rw [List.foldl_cons, Service.call_service .plugin demand.plugin demand.call rfl]
    exact ih _

namespace Traffic

variable {h : Host} {s s' : Traffic}

/-- The calls with some numbers. -/
def calls (s : Traffic) (numbers : List Nat) : List Demand :=
  numbers.filterMap fun number => s.demands[number]?

/-- The host is `h`, or, if it has stopped, what is left of `h`. -/
def Rests (s : Traffic) (h : Host) : Prop :=
  match s.duty with
  | .stopped leaks => leaks = h.ledger.close.1 ∧ s.host = { h with ledger := h.ledger.close.2 }
  | _ => s.host = h

lemma rests_of_going (hgoing : ∀ leaks, s.duty ≠ .stopped leaks) (h : Host) :
    s.Rests h ↔ s.host = h := by
  unfold Rests
  split
  · next hduty => exact absurd hduty (hgoing _)
  · exact Iff.rfl

lemma calls_append (numbers numbers' : List Nat) :
    s.calls (numbers ++ numbers') = s.calls numbers ++ s.calls numbers' :=
  List.filterMap_append

lemma calls_of_grown (hgrown : s.demands <+: s'.demands) {numbers : List Nat}
    (hnumbers : ∀ number ∈ numbers, number < s.tickets.length) :
    s'.calls numbers = s.calls numbers := by
  refine List.filterMap_congr fun number hmem => ?_
  obtain ⟨demands, hdemands⟩ := hgrown
  rw [← hdemands, List.getElem?_append_left]
  rw [length_demands]
  exact hnumbers number hmem

lemma calls_singleton {number : Nat} {t : Ticket} (ht : s.tickets[number]? = some t) :
    s.calls [number] = [t.demand] := by
  simp [calls, demands, ht]

/-- What is true of the traffic whatever has happened since it started at the host `h`. -/
structure Traced (h : Host) (s : Traffic) : Prop extends s.Orderly where
  /-- The performed calls are those with a result, or a crash. -/
  performed {number : Nat} {t : Ticket} : s.tickets[number]? = some t →
    (number ∈ s.performed ↔ t.errand.runs ≠ [])
  /-- There are no other numbers among those of the performed calls. -/
  numbers {number : Nat} : number ∈ s.performed → number < s.tickets.length
  /-- No call has been performed twice. -/
  nodup : s.performed.Nodup
  /-- Every result is the one that the call gives behind those in front of it. -/
  results {front back : List Nat} {number : Nat} {t : Ticket} :
    s.performed = front ++ number :: back → s.tickets[number]? = some t →
    t.errand.runs = [((h.performAll (s.calls front)).perform t.demand.plugin t.demand.call).result]
  /-- The host is what the performed calls make of it. -/
  host : s.Rests (h.performAll (s.calls s.performed))

lemma traced_start : (start h).Traced h where
  toOrderly := orderly_start h
  performed ht := by cases ht
  numbers hmem := by cases hmem
  nodup := List.nodup_nil
  results hperformed := by simp [start] at hperformed
  host := rfl

/-- A step in which nothing is performed and no call gets a result. -/
lemma Traced.of_quiet (htraced : s.Traced h) (hchange : s.Change s')
    (hperformed : s'.performed = s.performed)
    (htickets : ∀ {number : Nat} {t' : Ticket}, s'.tickets[number]? = some t' →
      (∃ t, s.tickets[number]? = some t ∧ t'.errand.runs = t.errand.runs ∧ t'.demand = t.demand) ∨
        (s.tickets[number]? = none ∧ t'.errand.runs = []))
    (hhost : ∀ h, s.Rests h → s'.Rests h) : s'.Traced h := by
  have hgrown := hchange.demands_grow
  have hcalls {numbers : List Nat} (hsub : ∀ number ∈ numbers, number ∈ s.performed) :
      s'.calls numbers = s.calls numbers :=
    calls_of_grown hgrown fun number hmem => htraced.numbers (hsub number hmem)
  refine ⟨hchange.orderly htraced.toOrderly, ?_, ?_, ?_, ?_, ?_⟩
  · intro number t' ht'
    rw [hperformed]
    obtain ⟨t, ht, hruns, -⟩ | ⟨hnone, hruns⟩ := htickets ht'
    · rw [hruns]
      exact htraced.performed ht
    · rw [List.getElem?_eq_none_iff] at hnone
      refine iff_of_false ?_ (not_not.2 hruns)
      intro hmem
      have hlt := htraced.numbers hmem
      omega
  · intro number hmem
    rw [hperformed] at hmem
    have hlt := htraced.numbers hmem
    have hlength := hgrown.length_le
    rw [length_demands, length_demands] at hlength
    omega
  · rw [hperformed]
    exact htraced.nodup
  · intro front back number t' hsplit ht'
    rw [hperformed] at hsplit
    have hmem : ∀ other ∈ front ++ [number], other ∈ s.performed := by
      intro other hother
      rw [hsplit, List.append_cons]
      exact List.mem_append_left _ hother
    obtain ⟨t, ht, hruns, hdemand⟩ | ⟨hnone, -⟩ := htickets ht'
    · rw [hruns, hdemand, hcalls fun other hother => hmem other (List.mem_append_left _ hother)]
      exact htraced.results hsplit ht
    · rw [List.getElem?_eq_none_iff] at hnone
      have hlt := htraced.numbers (hmem number (by simp))
      omega
  · rw [hperformed, hcalls fun number hmem => hmem]
    exact hhost _ htraced.host

/-- An element of a list with one more at the end is that one, or stands in front of it. -/
lemma eq_or_split_of_concat {α : Type} {l front back : List α} {a b : α}
    (hsplit : l ++ [b] = front ++ a :: back) :
    (front = l ∧ a = b) ∨ ∃ back', l = front ++ a :: back' := by
  obtain rfl | ⟨back', last, rfl⟩ := List.eq_nil_or_concat' back
  · obtain ⟨hfront, hlast⟩ := List.append_inj' hsplit rfl
    exact .inl ⟨hfront.symm, (List.singleton_inj.1 hlast).symm⟩
  · rw [← List.cons_append, ← List.append_assoc] at hsplit
    exact .inr ⟨back', (List.append_inj' hsplit rfl).1⟩

/-- The step in which a call is performed. -/
lemma Traced.perform (htraced : s.Traced h) {number : Nat} {t : Ticket}
    (ht : s.tickets[number]? = some t) (haccepted : t.admission = .accepted)
    (hduty : s.duty = .serving number) (htask : t.errand.task = .running) :
    Traced h
      { s.put number (t.serve s.host).2 with
        host := (t.serve s.host).1, performed := s.performed ++ [number] } := by
  have hchange : s.Change _ := .perform ht haccepted hduty htask
  have hsound : t.errand.Sound := by
    have hsound := htraced.tickets ht
    rwa [Ticket.Sound, haccepted] at hsound
  have hbefore : t.errand.runs = [] := hsound.runs_of_running htask
  have hnew : number ∉ s.performed := by
    rw [htraced.performed ht, hbefore]
    exact not_not.2 rfl
  obtain ⟨hperformed, hruns⟩ :=
    Errand.serve_of_running t.demand.plugin t.demand.call s.host htask
  rw [hbefore, List.nil_append] at hruns
  have hhost : s.host = h.performAll (s.calls s.performed) := by
    have hrests := htraced.host
    rwa [rests_of_going (by simp [hduty])] at hrests
  have hcalls (numbers : List Nat) :
      calls (s.put number (t.serve s.host).2) numbers = s.calls numbers := by
    simp only [calls, demands_put ht (t.follows_serve s.host).demand_eq]
  have htickets {other : Nat} {u : Ticket}
      (hu : (s.put number (t.serve s.host).2).tickets[other]? = some u) :
      (other = number ∧ u = (t.serve s.host).2) ∨
        (other ≠ number ∧ s.tickets[other]? = some u) := by
    rw [getElem?_put ht] at hu
    split at hu
    · next heq =>
      cases hu
      exact .inl ⟨heq, rfl⟩
    · next hne => exact .inr ⟨hne, hu⟩
  refine ⟨hchange.orderly htraced.toOrderly, ?_, ?_, ?_, ?_, ?_⟩
  · intro other u hu
    rw [List.mem_append, List.mem_singleton]
    obtain ⟨rfl, rfl⟩ | ⟨hne, hu⟩ := htickets hu
    · refine iff_of_true (.inr rfl) ?_
      show (t.errand.serve t.demand.plugin t.demand.call s.host).2.runs ≠ []
      rw [hruns]
      exact List.cons_ne_nil _ _
    · simp only [hne, or_false]
      exact htraced.performed hu
  · intro other hmem
    show other < (s.tickets.set number (t.serve s.host).2).length
    rw [List.length_set]
    obtain hmem | hmem := List.mem_append.1 hmem
    · exact htraced.numbers hmem
    · obtain rfl := List.mem_singleton.1 hmem
      exact (List.getElem?_eq_some_iff.1 ht).1
  · refine htraced.nodup.append (List.nodup_singleton number) ?_
    rw [List.disjoint_singleton]
    exact hnew
  · intro front back other u hsplit hu
    show u.errand.runs = [((h.performAll (calls (s.put number (t.serve s.host).2) front)).perform
      u.demand.plugin u.demand.call).result]
    rw [hcalls]
    -- the call is the one that is performed now, or it stands in front of that
    obtain ⟨rfl, rfl⟩ | ⟨back', hfront⟩ := eq_or_split_of_concat hsplit
    · obtain ⟨-, rfl⟩ | ⟨hne, -⟩ := htickets hu
      · rw [← hhost]
        exact hruns
      · exact absurd rfl hne
    · obtain ⟨rfl, -⟩ | ⟨-, hu⟩ := htickets hu
      · refine absurd ?_ hnew
        rw [hfront]
        exact List.mem_append_right _ List.mem_cons_self
      · exact htraced.results hfront hu
  · rw [rests_of_going (by simp [put, hduty])]
    show (t.serve s.host).1 =
      h.performAll (calls (s.put number (t.serve s.host).2) (s.performed ++ [number]))
    rw [hcalls, calls_append, calls_singleton ht, Host.performAll_append, ← hhost]
    exact hperformed

lemma runs_put {number : Nat} {t t' : Ticket} (ht : s.tickets[number]? = some t)
    (hadvances : t.Advances t') {other : Nat} {u' : Ticket}
    (hu' : (s.put number t').tickets[other]? = some u') :
    ∃ u, s.tickets[other]? = some u ∧ u'.errand.runs = u.errand.runs ∧ u'.demand = u.demand := by
  rw [getElem?_put ht] at hu'
  split at hu'
  · next heq =>
    subst heq
    cases hu'
    exact ⟨t, ht, hadvances.runs_eq, hadvances.demand_eq⟩
  · exact ⟨u', hu', rfl, rfl⟩

lemma Traced.change (htraced : s.Traced h) (hchange : s.Change s') : s'.Traced h := by
  have hchange' := hchange
  cases hchange with
  | same => exact htraced
  | jobs hjobs hbefore hafter =>
    refine htraced.of_quiet hchange' rfl ?_ ?_
    · intro number t' ht'
      exact .inl ⟨t', ht', rfl, rfl⟩
    · intro h hrests
      rw [rests_of_going hbefore] at hrests
      rw [rests_of_going hafter]
      exact hrests
  | issue hfree =>
    refine htraced.of_quiet hchange' rfl ?_ ?_
    · intro number t' ht'
      rw [List.getElem?_append] at ht'
      split at ht'
      · exact .inl ⟨t', ht', rfl, rfl⟩
      · next hge =>
        obtain rfl := List.mem_singleton.1 (List.mem_of_getElem? ht')
        exact .inr ⟨List.getElem?_eq_none (not_lt.1 hge), rfl⟩
    · exact fun h hrests => hrests
  | accept hu hpending =>
    refine htraced.of_quiet hchange' rfl ?_ ?_
    · exact fun hu' => .inl (runs_put hu (Ticket.advances_accept hpending) hu')
    · exact fun h hrests => hrests
  | advance hu hadvances =>
    refine htraced.of_quiet hchange' rfl ?_ ?_
    · exact fun hu' => .inl (runs_put hu hadvances hu')
    · exact fun h hrests => hrests
  | perform hu haccepted hduty htask => exact htraced.perform hu haccepted hduty htask
  | stop hbefore =>
    refine htraced.of_quiet hchange' rfl ?_ ?_
    · intro number t' ht'
      exact .inl ⟨t', ht', rfl, rfl⟩
    · intro h hrests
      rw [rests_of_going hbefore] at hrests
      subst hrests
      exact ⟨rfl, rfl⟩

lemma Traced.run (htraced : s.Traced h) (events : List Event) : (s.run events).Traced h := by
  induction events generalizing s with
  | nil => exact htraced
  | cons event events ih => exact ih (htraced.change (step_change htraced.toOrderly event))

/-! ## Time -/

lemma Traced.performed_of_returned (htraced : s.Traced h) {number : Nat} {t : Ticket}
    (ht : s.tickets[number]? = some t) {result : CallResult Reply}
    (hreturned : t.returned? = some result) (haccepted : t.admission = .accepted)
    (hresult : result ≠ .error .apiRequestTimeout) : number ∈ s.performed := by
  obtain ⟨hrejected, -⟩ | ⟨-, htimeout, -⟩ | ⟨-, -, hruns⟩ :=
    (htraced.tickets ht).of_returned hreturned
  · rw [haccepted] at hrejected
    cases hrejected
  · exact absurd htimeout hresult
  · rw [htraced.performed ht, hruns]
    exact List.cons_ne_nil _ _

/-- Who has returned from a performed call has returned its result. -/
lemma Traced.runs_of_returned (htraced : s.Traced h) {number : Nat} {t : Ticket}
    (ht : s.tickets[number]? = some t) (hnormal : none ∉ t.errand.runs)
    {result : CallResult Reply} (hreturned : t.returned? = some result)
    (hmem : number ∈ s.performed) :
    t.admission = .accepted ∧ result ≠ .error .apiRequestTimeout ∧
      t.errand.runs = [some result] := by
  rw [htraced.performed ht] at hmem
  obtain ⟨-, -, hnone⟩ | ⟨-, -, hnone | hcrash⟩ | hreturned :=
    (htraced.tickets ht).of_returned hreturned
  · exact absurd hnone hmem
  · exact absurd hnone hmem
  · simp [hcrash] at hnormal
  · exact hreturned

/-- A call from which the caller has returned was performed if the mailbox took it and the caller
has not timed out. -/
lemma Traced.performed_iff (htraced : s.Traced h) {number : Nat} {t : Ticket}
    (ht : s.tickets[number]? = some t) (hnormal : none ∉ t.errand.runs)
    {result : CallResult Reply} (hreturned : t.returned? = some result) :
    number ∈ s.performed ↔ t.admission = .accepted ∧ result ≠ .error .apiRequestTimeout := by
  constructor
  · intro hmem
    obtain ⟨haccepted, hresult, -⟩ := htraced.runs_of_returned ht hnormal hreturned hmem
    exact ⟨haccepted, hresult⟩
  · rintro ⟨haccepted, hresult⟩
    exact htraced.performed_of_returned ht hreturned haccepted hresult

/-- When a caller has returned it is settled whether its call is performed. -/
lemma Traced.performed_before (htraced : s.Traced h) {events : List Event}
    (hnormal : ∀ t ∈ (s.run events).tickets, none ∉ t.errand.runs)
    {number : Nat} {t : Ticket} (ht : s.tickets[number]? = some t)
    (hreturned : t.returned?.isSome) (hperformed : number ∈ (s.run events).performed) :
    number ∈ s.performed := by
  obtain ⟨result, hreturned⟩ := Option.isSome_iff_exists.1 hreturned
  obtain ⟨t', ht', hfollows⟩ := follows_run htraced.toOrderly events ht
  have hposted : t.admission ≠ .pending := by
    obtain ⟨h, -⟩ | ⟨h, -⟩ | ⟨h, -⟩ := (htraced.tickets ht).of_returned hreturned <;> simp [h]
  obtain ⟨haccepted, hresult⟩ := ((htraced.run events).performed_iff ht'
    (hnormal t' (List.mem_of_getElem? ht')) (hfollows.returned hreturned)).1 hperformed
  rw [hfollows.admission_eq hposted] at haccepted
  exact htraced.performed_of_returned ht hreturned haccepted hresult

/-- A call that is made after another one has been returned from is performed after it. -/
lemma Traced.sublist_performed (htraced : s.Traced h) {events : List Event}
    (hnormal : ∀ t ∈ (s.run events).tickets, none ∉ t.errand.runs)
    {a b : Nat} {t : Ticket} (ht : s.tickets[a]? = some t) (hreturned : t.returned?.isSome)
    (hb : s.tickets.length ≤ b) (hmema : a ∈ (s.run events).performed)
    (hmemb : b ∈ (s.run events).performed) : [a, b].Sublist (s.run events).performed := by
  have hbefore := htraced.performed_before hnormal ht hreturned hmema
  obtain ⟨later, hlater⟩ := performed_run htraced.toOrderly events
  rw [← hlater] at hmemb ⊢
  have hafter : b ∈ later := by
    refine (List.mem_append.1 hmemb).resolve_left ?_
    intro hmem
    have hlt := htraced.numbers hmem
    omega
  exact (List.singleton_sublist.2 hbefore).append (List.singleton_sublist.2 hafter)

/-- Every call was made at some time, when its thread waited for none. -/
lemma exists_issue (h : Host) {events : List Event} {number : Nat} {demand : Demand}
    (hdemand : ((start h).run events).demands[number]? = some demand) :
    ∃ before, before <+: events ∧ ((start h).run before).tickets.length = number ∧
      ((start h).run before).isFree demand.thread = true := by
  induction events using List.reverseRecOn with
  | nil => cases hdemand
  | append_singleton events event ih =>
    have hs := (orderly_start h).run events
    have hchange := step_change hs event
    rw [run_append] at hdemand
    obtain heq | ⟨demand', hfree, heq⟩ := hchange.demands_cases
    · obtain ⟨before, hbefore, hissue⟩ := ih (heq ▸ hdemand)
      exact ⟨before, hbefore.trans (List.prefix_append _ _), hissue⟩
    · replace hdemand : (((start h).run events).demands ++ [demand'])[number]? = some demand :=
        heq ▸ hdemand
      rw [List.getElem?_append] at hdemand
      split at hdemand
      · obtain ⟨before, hbefore, hissue⟩ := ih hdemand
        exact ⟨before, hbefore.trans (List.prefix_append _ _), hissue⟩
      · next hge =>
        -- this is the step in which the call was made
        obtain ⟨hlt, hget⟩ := List.getElem?_eq_some_iff.1 hdemand
        rw [length_demands] at hge hlt
        simp only [List.length_singleton] at hlt
        refine ⟨events, List.prefix_append _ _, by omega, ?_⟩
        rw [← hget, List.getElem_singleton]
        exact hfree

/-! ## The order -/

/-- What it means that an order of calls, given by their numbers, explains what has come of some
events since the start at the host `h`. -/
structure Linearization (h : Host) (events : List Event) (order : List Nat) : Prop where
  /-- No call is in the order twice. -/
  nodup : order.Nodup
  /-- The calls in the order were handed over. -/
  accepted {number : Nat} : number ∈ order →
    ∃ t, ((start h).run events).tickets[number]? = some t ∧ t.admission = .accepted
  /-- Of the calls from which the caller has returned, those are in the order that were handed over
  and have not timed out. -/
  returned {number : Nat} {t : Ticket} {result : CallResult Reply} :
    ((start h).run events).tickets[number]? = some t → t.returned? = some result →
    (number ∈ order ↔ t.admission = .accepted ∧ result ≠ .error .apiRequestTimeout)
  /-- The calls that could not be handed over fail. -/
  rejected {number : Nat} {t : Ticket} {result : CallResult Reply} :
    ((start h).run events).tickets[number]? = some t → t.returned? = some result →
    t.admission = .rejected → result = .error .internalError
  /-- What has been returned from a call in the order is what the call gives when those in front of
  it have been performed one after another. -/
  results {front back : List Nat} {number : Nat} {t : Ticket} {result : CallResult Reply} :
    order = front ++ number :: back → ((start h).run events).tickets[number]? = some t →
    t.returned? = some result →
    ((h.performAll (((start h).run events).calls front)).perform t.demand.plugin
      t.demand.call).result = some result
  /-- In the end the host is what the calls in the order, one after another, make of it. -/
  final : ((start h).run events).Rests (h.performAll (((start h).run events).calls order))
  /-- And so it was at all times, with the calls in some front part of the order. -/
  always {before : List Event} : before <+: events → ∃ front, front <+: order ∧
    ((start h).run before).Rests (h.performAll (((start h).run events).calls front))
  /-- A call from which the caller had returned before another one was made is in front of that. -/
  time {before : List Event} {a b : Nat} {t : Ticket} : before <+: events →
    ((start h).run before).tickets[a]? = some t → t.returned?.isSome →
    ((start h).run before).tickets.length ≤ b → a ∈ order → b ∈ order → [a, b].Sublist order
  /-- The calls of one thread are in the order in which the thread made them. -/
  threads {a b : Nat} {t u : Ticket} : a < b →
    ((start h).run events).tickets[a]? = some t → ((start h).run events).tickets[b]? = some u →
    t.demand.thread = u.demand.thread → a ∈ order → b ∈ order → [a, b].Sublist order

/-- Whatever happens, as long as no call crashes, there is one order of the performed calls that
explains every result and every state of the host, and respects time.  Calls that time out or find
the mailbox closed are not in it. -/
theorem linearizable (h : Host) (events : List Event)
    (hnormal : ∀ t ∈ ((start h).run events).tickets, none ∉ t.errand.runs) :
    ∃ order, Linearization h events order := by
  have htraced : ((start h).run events).Traced h := traced_start.run events
  have htime {before : List Event} {a b : Nat} {t : Ticket} (hbefore : before <+: events)
      (ht : ((start h).run before).tickets[a]? = some t) (hreturned : t.returned?.isSome)
      (hb : ((start h).run before).tickets.length ≤ b)
      (hmema : a ∈ ((start h).run events).performed)
      (hmemb : b ∈ ((start h).run events).performed) :
      [a, b].Sublist ((start h).run events).performed := by
    obtain ⟨later, rfl⟩ := hbefore
    rw [run_append] at hnormal hmema hmemb ⊢
    exact (traced_start.run before).sublist_performed hnormal ht hreturned hb hmema hmemb
  refine ⟨((start h).run events).performed, htraced.nodup, ?_, ?_, ?_, ?_, htraced.host, ?_, htime,
    ?_⟩
  · intro number hmem
    have ht := List.getElem?_eq_getElem (htraced.numbers hmem)
    refine ⟨_, ht, (htraced.tickets ht).accepted_of_runs ?_⟩
    rwa [← htraced.performed ht]
  · intro number t result ht hreturned
    exact htraced.performed_iff ht (hnormal t (List.mem_of_getElem? ht)) hreturned
  · intro number t result ht hreturned hrejected
    obtain ⟨-, hresult, -⟩ | ⟨haccepted, -⟩ | ⟨haccepted, -⟩ :=
      (htraced.tickets ht).of_returned hreturned
    · exact hresult
    · rw [haccepted] at hrejected
      cases hrejected
    · rw [haccepted] at hrejected
      cases hrejected
  · intro front back number t result hsplit ht hreturned
    have hmem : number ∈ ((start h).run events).performed := by
      rw [hsplit]
      simp
    obtain ⟨-, -, hruns⟩ :=
      htraced.runs_of_returned ht (hnormal t (List.mem_of_getElem? ht)) hreturned hmem
    rw [htraced.results hsplit ht] at hruns
    exact List.singleton_inj.1 hruns
  · intro before hbefore
    obtain ⟨later, rfl⟩ := hbefore
    rw [run_append]
    have hearlier : ((start h).run before).Traced h := traced_start.run before
    refine ⟨_, performed_run hearlier.toOrderly later, ?_⟩
    rw [calls_of_grown (demands_run hearlier.toOrderly later)
      fun number hmem => hearlier.numbers hmem]
    exact hearlier.host
  · intro a b t u hlt ht hu hthread hmema hmemb
    -- the thread had returned from the first call when it made the second one
    have hdemand : ((start h).run events).demands[b]? = some u.demand := by
      simp [demands, hu]
    obtain ⟨before, hbefore, hlength, hfree⟩ := exists_issue h hdemand
    have hget := List.getElem?_eq_getElem (show a < ((start h).run before).tickets.length by omega)
    have hfollows := follows_run ((orderly_start h).run before)
    refine htime hbefore hget ?_ hlength.le hmema hmemb
    obtain ⟨later, rfl⟩ := hbefore
    obtain ⟨t', ht', hsame⟩ := hfollows later hget
    rw [run_append] at ht
    obtain rfl : t' = t := Option.some.inj (ht'.symm.trans ht)
    refine returned?_of_isFree hfree (List.getElem_mem _) ?_
    rw [← hthread, hsame.demand_eq]

/-- Two threads, of which one times out before the host comes to its call; then the host stops. -/
theorem linearizable_late :
    let events : List Event :=
      [.issue ⟨1, 3, .onSession 0 .getLocalUserId⟩,
        .issue ⟨2, 3, .requestMicrophoneActivationOverwrite true⟩, .post 1, .post 0, .expire 1] ++
        List.replicate 4 (.proceed 1) ++ .shutdown :: List.replicate 12 .work ++
        List.replicate 2 (.proceed 0) ++ List.replicate 3 .work
    let s := (start .lonely).run events
    s.tickets.map Ticket.returned? =
        [some (.ok (.user 1)), some (.error .apiRequestTimeout)] ∧
      s.duty.isOpen = false ∧ ∃ order, Linearization .lonely events order := by
  intro events s
  refine ⟨rfl, rfl, linearizable .lonely events ?_⟩
  decide

end Traffic

end PluginHost
