/-
# Many callers

Any number of threads make calls, each of them one after another, and all of them to one host.  A
thread hands its call over by putting a job into the mailbox of the host and waits; the host takes
the jobs out of the mailbox in the order in which they were put in.  The host can be told to stop,
which is a job too.  It then closes the mailbox, throws away what is still in it, and reports what
is still lent.  A call that finds the mailbox closed fails at once.

The state of all this is a `Traffic`.  Every `Event` is one step of one of the parties, and a list
of events is one way in which things can happen; an event that is not possible, or not yet, changes
nothing.  The calls are numbered as they are made.

A step of the traffic does one of few things (`Change`), and the rest of this file says what these
leave alone: which calls were made, what has been returned, and what the host has done.
-/
import PluginHost.Proofs.Call.Errand

namespace PluginHost

/-- A call, with who makes it. -/
structure Demand where
  /-- The thread that makes the call. -/
  thread : Nat
  /-- The plugin for which it is made. -/
  plugin : PluginId
  /-- The call. -/
  call : Call
deriving DecidableEq, Repr

/-- What has become of the attempt to hand a call over. -/
inductive Admission where
  /-- The call is yet to be handed over. -/
  | pending
  /-- The mailbox has taken it. -/
  | accepted
  /-- The mailbox was closed. -/
  | rejected
deriving DecidableEq, Repr

/-- A call that was made. -/
structure Ticket where
  /-- The call. -/
  demand : Demand
  /-- Whether it has been handed over. -/
  admission : Admission
  /-- How far it has come. -/
  errand : Errand

namespace Ticket

/-- A call that is made, but not handed over yet. -/
def new (demand : Demand) : Ticket := ⟨demand, .pending, .start⟩

/-- What the caller has returned. -/
def returned? (t : Ticket) : Option (CallResult Reply) := t.errand.returned?

/-- The mailbox takes the call. -/
def accept (t : Ticket) : Ticket := { t with admission := .accepted }

/-- The mailbox is closed: the failure is stored, and the host has nothing to do with the call. -/
def reject (t : Ticket) : Ticket :=
  { t with
    admission := .rejected
    errand := ⟨.start (Promise.new.fulfil (.error .internalError)), .done, []⟩ }

/-- The caller goes on. -/
def proceed (t : Ticket) : Ticket := { t with errand := t.errand.proceed }

/-- The time bound of the caller passes. -/
def expire (t : Ticket) : Ticket := { t with errand := t.errand.expire }

/-- The host goes on with the call. -/
def serve (t : Ticket) (h : Host) : Host × Ticket :=
  let (host, errand) := t.errand.serve t.demand.plugin t.demand.call h
  (host, { t with errand := errand })

end Ticket

/-- What is put into the mailbox. -/
inductive Job where
  /-- To serve the call with a number. -/
  | run (number : Nat)
  /-- To stop. -/
  | shutdown
deriving DecidableEq, Repr

/-- What the host is about to do. -/
inductive Duty where
  /-- To take the next job. -/
  | idle
  /-- To go on with the call with a number. -/
  | serving (number : Nat)
  /-- To close the mailbox. -/
  | closing
  /-- To throw away what is left in the mailbox, which is closed. -/
  | draining
  /-- Nothing any more; it has reported these leaks. -/
  | stopped (leaks : List Leak)
deriving DecidableEq, Repr

/-- Whether the mailbox is open. -/
def Duty.isOpen : Duty → Bool
  | idle | serving _ | closing => true
  | draining | stopped _ => false

/-- The host and all calls that are made to it. -/
structure Traffic where
  /-- The host. -/
  host : Host
  /-- The calls, by number. -/
  tickets : List Ticket
  /-- The jobs that the host has not taken yet, the next one in front. -/
  mailbox : List Job
  /-- What the host is about to do. -/
  duty : Duty
  /-- The numbers of the calls that the host has performed, the first one in front. -/
  performed : List Nat

namespace Traffic

/-- A step of one of the parties. -/
inductive Event where
  /-- A thread makes a call. -/
  | issue (demand : Demand)
  /-- The caller of a call hands it over. -/
  | post (number : Nat)
  /-- The caller of a call goes on. -/
  | proceed (number : Nat)
  /-- The time bound of the caller of a call passes. -/
  | expire (number : Nat)
  /-- Somebody tells the host to stop. -/
  | shutdown
  /-- The host goes on. -/
  | work
deriving DecidableEq, Repr

/-- Nothing has been asked of the host `h` yet. -/
def start (h : Host) : Traffic := ⟨h, [], [], .idle, []⟩

/-- Whether a thread waits for none of its calls. -/
def isFree (s : Traffic) (thread : Nat) : Bool :=
  s.tickets.all fun t => t.demand.thread ≠ thread || t.returned?.isSome

/-- The traffic with another state of the call with a number. -/
def put (s : Traffic) (number : Nat) (t : Ticket) : Traffic :=
  { s with tickets := s.tickets.set number t }

/-- The host goes on. -/
def work (s : Traffic) : Traffic :=
  match s.duty with
  | .idle =>
    match s.mailbox with
    | [] => s
    | .run number :: mailbox => { s with mailbox := mailbox, duty := .serving number }
    | .shutdown :: mailbox => { s with mailbox := mailbox, duty := .closing }
  | .serving number =>
    match s.tickets[number]? with
    | none => { s with duty := .idle }
    | some t =>
      let (host, served) := t.serve s.host
      match t.errand.task with
      | .done => { s with duty := .idle }
      | .running =>
        { s.put number served with host := host, performed := s.performed ++ [number] }
      | _ => s.put number served
  | .closing => { s with duty := .draining }
  | .draining =>
    match s.mailbox with
    | [] =>
      let (leaks, ledger) := s.host.ledger.close
      { s with host := { s.host with ledger := ledger }, duty := .stopped leaks }
    | _ :: mailbox => { s with mailbox := mailbox }
  | .stopped _ => s

/-- One step. -/
def step (s : Traffic) : Event → Traffic
  | .issue demand =>
    if s.isFree demand.thread then { s with tickets := s.tickets ++ [.new demand] } else s
  | .post number =>
    match s.tickets[number]? with
    | none => s
    | some t =>
      if t.admission ≠ .pending then s
      else if s.duty.isOpen then
        { s.put number t.accept with mailbox := s.mailbox ++ [.run number] }
      else s.put number t.reject
  | .proceed number =>
    match s.tickets[number]? with
    | none => s
    | some t => if t.admission = .pending then s else s.put number t.proceed
  | .expire number =>
    match s.tickets[number]? with
    | none => s
    | some t => if t.admission = .pending then s else s.put number t.expire
  | .shutdown => if s.duty.isOpen then { s with mailbox := s.mailbox ++ [.shutdown] } else s
  | .work => s.work

/-- What has come of some events. -/
def run (s : Traffic) (events : List Event) : Traffic := events.foldl step s

lemma returned?_of_isFree {s : Traffic} {thread : Nat} (hfree : s.isFree thread = true)
    {t : Ticket} (ht : t ∈ s.tickets) (hthread : t.demand.thread = thread) :
    t.returned?.isSome := by
  have hthis := List.all_eq_true.1 hfree t ht
  simpa [hthread] using hthis

lemma run_append (s : Traffic) (events events' : List Event) :
    s.run (events ++ events') = (s.run events).run events' := List.foldl_append

/-- The calls that were made, by number. -/
def demands (s : Traffic) : List Demand := s.tickets.map Ticket.demand

@[simp] lemma length_demands (s : Traffic) : s.demands.length = s.tickets.length :=
  List.length_map _

end Traffic

/-! ## What a step can do -/

/-- The calls that come about: one that is not handed over has not begun, one that was handed over
is on its way, and one that could not be fails. -/
def Ticket.Sound (t : Ticket) : Prop :=
  match t.admission with
  | .pending => t.errand = .start
  | .accepted => t.errand.Sound
  | .rejected => t.errand.runs = [] ∧ t.errand.handover.Served (.error .internalError)

/-- What remains of a call, whoever does something for it. -/
structure Ticket.Follows (t t' : Ticket) : Prop where
  /-- It is the same call. -/
  demand_eq : t'.demand = t.demand
  /-- What has been returned stays. -/
  returned {result : CallResult Reply} : t.returned? = some result → t'.returned? = some result
  /-- It has been handed over once and for all, or could not be. -/
  admission_eq : t.admission ≠ .pending → t'.admission = t.admission

/-- How a call goes on when it is not performed. -/
structure Ticket.Advances (t t' : Ticket) : Prop extends t.Follows t' where
  /-- It has been performed as often as before. -/
  runs_eq : t'.errand.runs = t.errand.runs
  /-- It is still one of those that come about. -/
  sound : t.Sound → t'.Sound

namespace Ticket

variable {t : Ticket}

lemma advances_accept (hpending : t.admission = .pending) : t.Advances t.accept where
  demand_eq := rfl
  runs_eq := rfl
  returned h := h
  admission_eq h := absurd hpending h
  sound := by
    intro hsound
    simp only [Sound, hpending] at hsound
    show t.errand.Sound
    rw [hsound]
    exact Errand.sound_start

lemma advances_reject (hsound : t.Sound) (hpending : t.admission = .pending) :
    t.Advances t.reject := by
  simp only [Sound, hpending] at hsound
  refine ⟨⟨rfl, ?_, ?_⟩, ?_, ?_⟩
  · intro result hreturned
    rw [returned?, hsound] at hreturned
    cases hreturned
  · exact fun hposted => absurd hpending hposted
  · rw [hsound]
    rfl
  · intro _
    exact ⟨rfl, Handover.served_start_fulfil _⟩

/-- The caller goes on by itself. -/
lemma advances_onward (hposted : t.admission ≠ .pending) {handover : Handover Reply}
    (honward : t.errand.handover.Onward handover) :
    t.Advances { t with errand := { t.errand with handover := handover } } where
  demand_eq := rfl
  runs_eq := rfl
  returned := by
    intro result hreturned
    show handover.result? = some result
    rw [honward.eq_of_returned hreturned]
    exact hreturned
  admission_eq _ := rfl
  sound := by
    intro hsound
    obtain ⟨demand, admission, errand⟩ := t
    cases admission with
    | pending => exact absurd rfl hposted
    | accepted => exact Errand.Sound.onward hsound honward
    | rejected =>
      -- the failure is there from the beginning, and the caller takes it like any result
      exact ⟨hsound.1, honward.served hsound.2⟩

lemma Follows.rfl : t.Follows t := ⟨Eq.refl _, id, fun _ => Eq.refl _⟩

lemma Follows.trans {t' t'' : Ticket} (h : t.Follows t') (h' : t'.Follows t'') :
    t.Follows t'' where
  demand_eq := h'.demand_eq.trans h.demand_eq
  returned hreturned := h'.returned (h.returned hreturned)
  admission_eq hposted := by
    rw [h'.admission_eq, h.admission_eq hposted]
    rwa [h.admission_eq hposted]

lemma returned?_serve (t : Ticket) (h : Host) : (t.serve h).2.returned? = t.returned? :=
  t.errand.returned?_serve

lemma follows_serve (t : Ticket) (h : Host) : t.Follows (t.serve h).2 where
  demand_eq := Eq.refl _
  returned := by
    intro result hreturned
    rw [returned?_serve]
    exact hreturned
  admission_eq _ := Eq.refl _

lemma sound_serve (haccepted : t.admission = .accepted) (hsound : t.Sound) (h : Host) :
    (t.serve h).2.Sound := by
  obtain ⟨demand, admission, errand⟩ := t
  obtain rfl : admission = .accepted := haccepted
  exact Errand.Sound.serve hsound

/-- The host goes on with a call, but does not perform it. -/
lemma advances_serve (haccepted : t.admission = .accepted) (htask : t.errand.task ≠ .running)
    (h : Host) : t.Advances (t.serve h).2 where
  toFollows := t.follows_serve h
  runs_eq := (Errand.serve_of_ne_running t.demand.plugin t.demand.call h htask).2
  sound hsound := sound_serve haccepted hsound h

/-- Only what has been handed over is ever performed. -/
lemma Sound.accepted_of_runs (hsound : t.Sound) (hruns : t.errand.runs ≠ []) :
    t.admission = .accepted := by
  obtain ⟨demand, admission, errand⟩ := t
  cases admission with
  | pending =>
    obtain rfl : errand = .start := hsound
    exact absurd (Eq.refl _) hruns
  | accepted => exact Eq.refl _
  | rejected => exact absurd hsound.1 hruns

/-- What a caller has returned tells what has become of its call.  It could not be handed over; or
nobody performed it before the caller gave up, unless it crashed; or it was performed with this
result. -/
lemma Sound.of_returned (hsound : t.Sound) {result : CallResult Reply}
    (hreturned : t.returned? = some result) :
    (t.admission = .rejected ∧ result = .error .internalError ∧ t.errand.runs = []) ∨
      (t.admission = .accepted ∧ result = .error .apiRequestTimeout ∧
        (t.errand.runs = [] ∨ t.errand.runs = [none])) ∨
      (t.admission = .accepted ∧ result ≠ .error .apiRequestTimeout ∧
        t.errand.runs = [some result]) := by
  obtain ⟨demand, admission, errand⟩ := t
  cases admission with
  | pending =>
    obtain rfl : errand = .start := hsound
    cases hreturned
  | accepted =>
    obtain ⟨htimeout, hruns⟩ | ⟨hresult, hruns⟩ := Errand.Sound.of_returned hsound hreturned
    · exact .inr (.inl ⟨Eq.refl _, htimeout, hruns⟩)
    · exact .inr (.inr ⟨Eq.refl _, hresult, hruns⟩)
  | rejected => exact .inl ⟨Eq.refl _, hsound.2.returned hreturned, hsound.1⟩

end Ticket

namespace Traffic

/-- What a step can make of the traffic `s`. -/
inductive Change (s : Traffic) : Traffic → Prop
  /-- Nothing. -/
  | same : Change s s
  /-- A job is put in, taken out or thrown away, or the host turns to something else; it has no
  other calls in its hands than before. -/
  | jobs {mailbox : List Job} {duty : Duty}
      (hjobs : ∀ {number}, Job.run number ∈ mailbox ∨ duty = .serving number →
        Job.run number ∈ s.mailbox ∨ s.duty = .serving number)
      (hbefore : ∀ leaks, s.duty ≠ .stopped leaks) (hafter : ∀ leaks, duty ≠ .stopped leaks) :
      Change s { s with mailbox := mailbox, duty := duty }
  /-- A thread that waits for nothing makes a call. -/
  | issue {demand : Demand} (hfree : s.isFree demand.thread = true) :
      Change s { s with tickets := s.tickets ++ [.new demand] }
  /-- A call is put into the mailbox. -/
  | accept {number : Nat} {t : Ticket} (ht : s.tickets[number]? = some t)
      (hpending : t.admission = .pending) :
      Change s { s.put number t.accept with mailbox := s.mailbox ++ [.run number] }
  /-- A call goes on. -/
  | advance {number : Nat} {t t' : Ticket} (ht : s.tickets[number]? = some t)
      (hadvances : t.Advances t') : Change s (s.put number t')
  /-- The host performs a call. -/
  | perform {number : Nat} {t : Ticket} (ht : s.tickets[number]? = some t)
      (haccepted : t.admission = .accepted) (hduty : s.duty = .serving number)
      (htask : t.errand.task = .running) :
      Change s
        { s.put number (t.serve s.host).2 with
          host := (t.serve s.host).1, performed := s.performed ++ [number] }
  /-- The host stops. -/
  | stop (hbefore : ∀ leaks, s.duty ≠ .stopped leaks) :
      Change s
        { s with
          host := { s.host with ledger := s.host.ledger.close.2 }
          duty := .stopped s.host.ledger.close.1 }

/-- The calls of a traffic are such as come about, and those that the host has in its hands have
been handed over. -/
structure Orderly (s : Traffic) : Prop where
  /-- Every call is one of those that come about. -/
  tickets {number : Nat} {t : Ticket} : s.tickets[number]? = some t → t.Sound
  /-- What the host has in its hands has been handed over. -/
  jobs {number : Nat} : Job.run number ∈ s.mailbox ∨ s.duty = .serving number →
    ∃ t, s.tickets[number]? = some t ∧ t.admission = .accepted

variable {s s' : Traffic}

lemma work_change (hs : s.Orderly) : s.Change s.work := by
  unfold work
  split
  · next hduty =>
    split
    · exact .same
    · next number mailbox hmailbox =>
      refine .jobs ?_ (by simp [hduty]) (by simp)
      rintro other (hmem | hserving)
      · exact .inl (hmailbox ▸ List.mem_cons_of_mem _ hmem)
      · cases hserving
        exact .inl (hmailbox ▸ List.mem_cons_self)
    · next mailbox hmailbox =>
      refine .jobs ?_ (by simp [hduty]) (by simp)
      rintro other (hmem | hserving)
      · exact .inl (hmailbox ▸ List.mem_cons_of_mem _ hmem)
      · cases hserving
  · next number hduty =>
    -- the call was handed over, and its task says what the host does for it now
    obtain ⟨t, ht, haccepted⟩ := hs.jobs (.inr hduty)
    rw [ht]
    simp only
    split
    · exact .jobs (fun h => h.imp_right fun h => by cases h) (by simp [hduty]) (by simp)
    · next htask => exact .perform ht haccepted hduty htask
    · next htask => exact .advance ht (Ticket.advances_serve haccepted htask s.host)
  · next hduty => exact .jobs (fun h => h.imp_right fun h => by cases h) (by simp [hduty]) (by simp)
  · next hduty =>
    split
    · exact .stop (by simp [hduty])
    · next job mailbox hmailbox =>
      refine .jobs ?_ (by simp [hduty]) (by simp [hduty])
      rintro other (hmem | hserving)
      · exact .inl (hmailbox ▸ List.mem_cons_of_mem _ hmem)
      · exact .inr hserving
  · exact .same

/-- Every step is one of these. -/
lemma step_change (hs : s.Orderly) (event : Event) : s.Change (s.step event) := by
  cases event with
  | issue demand =>
    simp only [step]
    split
    · next hfree => exact .issue hfree
    · exact .same
  | post number =>
    simp only [step]
    split
    · exact .same
    · next t ht =>
      split
      · exact .same
      · next hpending =>
        rw [not_not] at hpending
        split
        · exact .accept ht hpending
        · exact .advance ht (Ticket.advances_reject (hs.tickets ht) hpending)
  | proceed number =>
    simp only [step]
    split
    · exact .same
    · next t ht =>
      split
      · exact .same
      · next hposted => exact .advance ht (Ticket.advances_onward hposted .proceed)
  | expire number =>
    simp only [step]
    split
    · exact .same
    · next t ht =>
      split
      · exact .same
      · next hposted => exact .advance ht (Ticket.advances_onward hposted .expire)
  | shutdown =>
    simp only [step]
    split
    · next hopen =>
      have hgoing : ∀ leaks, s.duty ≠ .stopped leaks := by
        rintro leaks hduty
        rw [hduty] at hopen
        cases hopen
      refine .jobs ?_ hgoing hgoing
      simp
    · exact .same
  | work => exact work_change hs

/-! ## What steps leave alone -/

lemma getElem?_put {number : Nat} {t t' : Ticket} (ht : s.tickets[number]? = some t)
    (other : Nat) :
    (s.put number t').tickets[other]? = if other = number then some t' else s.tickets[other]? := by
  obtain ⟨hlt, -⟩ := List.getElem?_eq_some_iff.1 ht
  rw [put, List.getElem?_set]
  by_cases heq : other = number
  · simp [heq, hlt]
  · simp [heq, Ne.symm heq]

lemma demands_put {number : Nat} {t t' : Ticket} (ht : s.tickets[number]? = some t)
    (hdemand : t'.demand = t.demand) : (s.put number t').demands = s.demands := by
  apply List.ext_getElem?
  intro other
  simp only [demands, List.getElem?_map, getElem?_put ht]
  split
  · next heq =>
    subst heq
    simp [ht, hdemand]
  · rfl

lemma follows_put {number : Nat} {t t' : Ticket} (ht : s.tickets[number]? = some t)
    (hfollows : t.Follows t') {other : Nat} {u : Ticket} (hu : s.tickets[other]? = some u) :
    ∃ u', (s.put number t').tickets[other]? = some u' ∧ u.Follows u' := by
  rw [getElem?_put ht]
  split
  · next heq =>
    subst heq
    obtain rfl : t = u := Option.some.inj (ht.symm.trans hu)
    exact ⟨t', rfl, hfollows⟩
  · exact ⟨u, hu, .rfl⟩

lemma sound_put (hs : s.Orderly) {number : Nat} {t t' : Ticket}
    (ht : s.tickets[number]? = some t) (hsound : t'.Sound) {other : Nat} {u : Ticket}
    (hu : (s.put number t').tickets[other]? = some u) : u.Sound := by
  rw [getElem?_put ht] at hu
  split at hu
  · cases hu
    exact hsound
  · exact hs.tickets hu

namespace Change

/-- No call is forgotten. -/
lemma follows (hchange : s.Change s') {number : Nat} {t : Ticket}
    (ht : s.tickets[number]? = some t) :
    ∃ t', s'.tickets[number]? = some t' ∧ t.Follows t' := by
  cases hchange with
  | same => exact ⟨t, ht, .rfl⟩
  | jobs hjobs hbefore hafter => exact ⟨t, ht, .rfl⟩
  | issue hfree =>
    obtain ⟨hlt, -⟩ := List.getElem?_eq_some_iff.1 ht
    exact ⟨t, by rw [List.getElem?_append_left hlt, ht], .rfl⟩
  | accept hu hpending => exact follows_put hu (Ticket.advances_accept hpending).toFollows ht
  | advance hu hadvances => exact follows_put hu hadvances.toFollows ht
  | perform hu haccepted hduty htask => exact follows_put hu (Ticket.follows_serve _ _) ht
  | stop hbefore => exact ⟨t, ht, .rfl⟩

/-- A thread makes a call only when it waits for none. -/
lemma demands_cases (hchange : s.Change s') :
    s'.demands = s.demands ∨
      ∃ demand, s.isFree demand.thread = true ∧ s'.demands = s.demands ++ [demand] := by
  cases hchange with
  | same => exact .inl rfl
  | jobs hjobs hbefore hafter => exact .inl rfl
  | @issue demand hfree => exact .inr ⟨demand, hfree, by simp [demands, Ticket.new]⟩
  | accept hu hpending => exact .inl (demands_put hu (Ticket.advances_accept hpending).demand_eq)
  | advance hu hadvances => exact .inl (demands_put hu hadvances.demand_eq)
  | perform hu haccepted hduty htask =>
    exact .inl (demands_put hu (Ticket.follows_serve _ s.host).demand_eq)
  | stop hbefore => exact .inl rfl

lemma demands_grow (hchange : s.Change s') : s.demands <+: s'.demands := by
  obtain heq | ⟨demand, -, heq⟩ := hchange.demands_cases
  · rw [heq]
  · rw [heq]
    exact List.prefix_append _ _

lemma performed_grow (hchange : s.Change s') : s.performed <+: s'.performed := by
  cases hchange with
  | perform hu haccepted hduty htask => exact List.prefix_append _ _
  | same | jobs | issue | accept | advance | stop => exact List.prefix_rfl

lemma orderly (hs : s.Orderly) (hchange : s.Change s') : s'.Orderly := by
  -- a call in the hands of the host stays there
  have hkept {number : Nat}
      (hhands : Job.run number ∈ s.mailbox ∨ s.duty = .serving number) :
      ∃ t, s'.tickets[number]? = some t ∧ t.admission = .accepted := by
    obtain ⟨t, ht, haccepted⟩ := hs.jobs hhands
    obtain ⟨t', ht', hfollows⟩ := hchange.follows ht
    exact ⟨t', ht', by rw [hfollows.admission_eq (by simp [haccepted]), haccepted]⟩
  cases hchange with
  | same => exact hs
  | jobs hjobs hbefore hafter => exact ⟨hs.tickets, fun h => hkept (hjobs h)⟩
  | issue hfree =>
    refine ⟨?_, hkept⟩
    intro number t ht
    rw [List.getElem?_append] at ht
    split at ht
    · exact hs.tickets ht
    · obtain rfl := List.mem_singleton.1 (List.mem_of_getElem? ht)
      rfl
  | @accept number t hu hpending =>
    refine ⟨sound_put hs hu ((Ticket.advances_accept hpending).sound (hs.tickets hu)), ?_⟩
    rintro other (hmem | hserving)
    · obtain hmem | heq := List.mem_append.1 hmem
      · exact hkept (.inl hmem)
      · cases List.mem_singleton.1 heq
        exact ⟨t.accept, by rw [getElem?_put hu, if_pos rfl], rfl⟩
    · exact hkept (.inr hserving)
  | advance hu hadvances => exact ⟨sound_put hs hu (hadvances.sound (hs.tickets hu)), hkept⟩
  | perform hu haccepted hduty htask =>
    exact ⟨sound_put hs hu (Ticket.sound_serve haccepted (hs.tickets hu) s.host), hkept⟩
  | stop hbefore =>
    refine ⟨hs.tickets, ?_⟩
    rintro number (hmem | hserving)
    · exact hkept (.inl hmem)
    · cases hserving

end Change

/-! ## Whole runs -/

lemma orderly_start (h : Host) : (start h).Orderly where
  tickets ht := by cases ht
  jobs hhands := by
    obtain hmem | hserving := hhands
    · cases hmem
    · cases hserving

lemma Orderly.run (hs : s.Orderly) (events : List Event) : (s.run events).Orderly := by
  induction events generalizing s with
  | nil => exact hs
  | cons event events ih => exact ih ((step_change hs event).orderly hs)

lemma follows_run (hs : s.Orderly) (events : List Event) {number : Nat} {t : Ticket}
    (ht : s.tickets[number]? = some t) :
    ∃ t', (s.run events).tickets[number]? = some t' ∧ t.Follows t' := by
  induction events generalizing s t with
  | nil => exact ⟨t, ht, .rfl⟩
  | cons event events ih =>
    have hchange := step_change hs event
    obtain ⟨t', ht', hfollows⟩ := hchange.follows ht
    obtain ⟨t'', ht'', hfollows'⟩ := ih (hchange.orderly hs) ht'
    exact ⟨t'', ht'', hfollows.trans hfollows'⟩

lemma demands_run (hs : s.Orderly) (events : List Event) :
    s.demands <+: (s.run events).demands := by
  induction events generalizing s with
  | nil => exact List.prefix_rfl
  | cons event events ih =>
    have hchange := step_change hs event
    exact hchange.demands_grow.trans (ih (hchange.orderly hs))

lemma performed_run (hs : s.Orderly) (events : List Event) :
    s.performed <+: (s.run events).performed := by
  induction events generalizing s with
  | nil => exact List.prefix_rfl
  | cons event events ih =>
    have hchange := step_change hs event
    exact hchange.performed_grow.trans (ih (hchange.orderly hs))

end Traffic

end PluginHost
