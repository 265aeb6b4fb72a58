/-
# A call from inside is like one from outside

When a job on the host's thread makes a call, the thread performs it on the spot.  The same call
made from another thread waits in the mailbox of the host until the host comes to it.  This file
compares the two, for jobs that hold on to nothing that the call makes use of.

From inside, every step of the thread brings the call nearer to its end, and nobody else can hinder
it (`Inside.work`): the result is in the promise before the wait begins, so the time bound makes no
difference, however short it is.  From outside, a caller whose time bound does not pass returns only
when the call has been performed (`Exchange.Traced.performed_of_patient`).  Both ways the call is
performed once on the same host, so the answer is the same, and so is the host that is left
(`call_inline`).
-/
import PluginHost.Proofs.Bench.System

namespace PluginHost

/-! ## From another thread -/

/-- The caller has not cancelled, and is not about to. -/
def Handover.Patient {α : Type} (h : Handover α) : Prop :=
  h.promise.cancelled = false ∧
    match h.waiter with
    | .waiting | .taking | .returned _ => True
    | .expired | .rechecking | .abandoning => False

lemma Handover.Patient.proceed {α : Type} {h : Handover α} (hpatient : h.Patient) :
    h.proceed.Patient := by
  obtain ⟨⟨cancelled, slot⟩, held, waiter⟩ := h
  obtain ⟨hcancelled, hwaiter⟩ := hpatient
  obtain rfl : cancelled = false := hcancelled
  cases waiter with
  | waiting => cases slot <;> exact ⟨rfl, trivial⟩
  | taking => cases slot <;> exact ⟨rfl, trivial⟩
  | returned result => exact ⟨rfl, trivial⟩
  | expired | rechecking | abandoning => cases hwaiter

namespace Errand

variable {plugin : PluginId} {call : Call} {h : Host} {e : Errand}

/-- Whatever the host does, it does not cancel for the caller. -/
lemma patient_serve (hpatient : e.handover.Patient) :
    (e.serve plugin call h).2.handover.Patient := by
  obtain ⟨handover, task, runs⟩ := e
  cases task with
  | running =>
    rcases hperform : h.perform plugin call with ⟨_ | result, host⟩
    · simpa only [serve, hperform] using hpatient
    · simpa only [serve, hperform] using hpatient
  | finished result =>
    refine ⟨?_, hpatient.2⟩
    rw [← hpatient.1]
    exact Promise.cancelled_fulfil _ _
  | queued | holding | leaving | done => exact hpatient

/-- A caller that has not cancelled has not returned the timeout. -/
lemma Sound.runs_of_patient (hsound : e.Sound) (hpatient : e.handover.Patient)
    {result : CallResult Reply} (hreturned : e.returned? = some result) :
    result ≠ .error .apiRequestTimeout ∧ e.runs = [some result] := by
  have hopen {handover : Handover Reply} (hunserved : handover.Unserved)
      (hpatient : handover.Patient) (hreturned : handover.result? = some result) : False := by
    have hcancelled := (hunserved.returned hreturned).2
    rw [hpatient.1] at hcancelled
    cases hcancelled
  have hsettled {handover : Handover Reply} {runs : List (Option (CallResult Reply))}
      (hsettled : Settled handover runs) (hpatient : handover.Patient)
      (hreturned : handover.result? = some result) :
      result ≠ .error .apiRequestTimeout ∧ runs = [some result] := by
    cases hsettled with
    | skipped hunserved hcancelled => exact (hopen hunserved hpatient hreturned).elim
    | crashed hunserved => exact (hopen hunserved hpatient hreturned).elim
    | served hserved hresult =>
      obtain rfl := hserved.returned hreturned
      exact ⟨hresult, rfl⟩
  cases hsound with
  | queued hunserved => exact (hopen hunserved hpatient hreturned).elim
  | holding hunserved => exact (hopen hunserved hpatient hreturned).elim
  | running hunserved => exact (hopen hunserved hpatient hreturned).elim
  | finished hunserved => exact (hopen hunserved hpatient hreturned).elim
  | leaving h => exact hsettled h hpatient hreturned
  | done h => exact hsettled h hpatient hreturned

end Errand

namespace Exchange

variable {plugin : PluginId} {call : Call} {h : Host} {x : Exchange}

lemma patient_run (hpatient : x.errand.handover.Patient) {order : List Party}
    (hclock : Party.clock ∉ order) : (x.run plugin call order).errand.handover.Patient := by
  induction order generalizing x with
  | nil => exact hpatient
  | cons party order ih =>
    obtain ⟨hparty, hrest⟩ := not_or.1 (List.mem_cons.not.1 hclock)
    refine ih ?_ hrest
    cases party with
    | caller => exact hpatient.proceed
    | clock => exact absurd rfl hparty
    | host => exact Errand.patient_serve hpatient

/-- If the time bound does not pass, a caller that has returned has the result of the call. -/
lemma performed_of_patient {order : List Party} (hclock : Party.clock ∉ order)
    {result : CallResult Reply}
    (hreturned : ((start h).run plugin call order).errand.returned? = some result) :
    (h.perform plugin call).result = some result ∧ result ≠ .error .apiRequestTimeout ∧
      ((start h).run plugin call order).host = (h.perform plugin call).host := by
  have htraced : Traced plugin call h ((start h).run plugin call order) := traced_start.run order
  have hpatient : ((start h).run plugin call order).errand.handover.Patient :=
    patient_run ⟨rfl, trivial⟩ hclock
  obtain ⟨hresult, hruns⟩ := htraced.sound.runs_of_patient hpatient hreturned
  obtain ⟨hnone, -⟩ | ⟨hsome, hhost⟩ := htraced.performed
  · rw [hruns] at hnone
    cases hnone
  · rw [hruns] at hsome
    exact ⟨(List.singleton_inj.1 hsome).symm, hresult, hhost⟩

/-- Given time to finish, the caller returns, unless the call crashes. -/
lemma returned?_patient {result : CallResult Reply} {host : Host}
    (hperform : h.perform plugin call = ⟨some result, host⟩) :
    ((start h).run plugin call
      (List.replicate 5 .host ++ List.replicate 2 .caller)).errand.returned? = some result := by
  have hbegun : (start h).run plugin call (List.replicate 2 .host) =
      ⟨h, ⟨⟨.new, true, .waiting⟩, .running, []⟩⟩ := rfl
  rw [show List.replicate 5 Party.host = List.replicate 2 .host ++ List.replicate 3 .host from rfl,
    List.append_assoc, run_append, hbegun]
  show ((step plugin call _ .host).run plugin call _).errand.returned? = _
  simp only [step, Errand.serve, hperform]
  rfl

end Exchange

/-! ## From inside a job -/

namespace Bench

section Inside

variable (plugin : PluginId) (way : CallWay) (next : Int32 × Option Reply → Chore)
  (outer : List Frame)

/-- Where the thread is when the call is over. -/
def ending (h : Host) : Duty :=
  match (h.perform plugin way.performed).result with
  | none => aborted way next outer
  | some result => .running
      (next (way.conclude (some result) ⟨(h.perform plugin way.performed).host, true⟩).answer) outer

/-- The bench while the call is under way that was begun on the host `h`, with so many steps of the
thread to come at most. -/
inductive Inside (h : Host) (mailbox : List Chore) : Nat → Bench → Prop
  /-- The task is about to begin. -/
  | queued (needs : List Guard) : Inside h mailbox (needs.length + 8)
      ⟨h, mailbox, .calling ⟨plugin, way, next, .start, needs⟩ outer⟩
  /-- It has hold of the cancel flag. -/
  | holding (needs : List Guard) : Inside h mailbox (needs.length + 7)
      ⟨h, mailbox, .calling
        ⟨plugin, way, next, ⟨⟨.new, true, .waiting⟩, .holding, []⟩, needs⟩ outer⟩
  /-- It makes use of one thing after the other, and then performs the call. -/
  | running (needs : List Guard) : Inside h mailbox (needs.length + 6)
      ⟨h, mailbox, .calling
        ⟨plugin, way, next, ⟨⟨.new, true, .waiting⟩, .running, []⟩, needs⟩ outer⟩
  /-- It is about to store the result. -/
  | finished {result : CallResult Reply} {host : Host}
      (hperform : h.perform plugin way.performed = ⟨some result, host⟩) : Inside h mailbox 5
      ⟨host, mailbox, .calling
        ⟨plugin, way, next, ⟨⟨.new, true, .waiting⟩, .finished result, [some result]⟩, []⟩ outer⟩
  /-- It is about to let go of the flag. -/
  | leaving {result : CallResult Reply} {host : Host}
      (hperform : h.perform plugin way.performed = ⟨some result, host⟩) : Inside h mailbox 4
      ⟨host, mailbox, .calling
        ⟨plugin, way, next,
          ⟨⟨⟨false, some result⟩, true, .waiting⟩, .leaving, [some result]⟩, []⟩ outer⟩
  /-- The task is over, and the wait begins. -/
  | waiting {result : CallResult Reply} {host : Host}
      (hperform : h.perform plugin way.performed = ⟨some result, host⟩) : Inside h mailbox 3
      ⟨host, mailbox, .calling
        ⟨plugin, way, next,
          ⟨⟨⟨false, some result⟩, false, .waiting⟩, .done, [some result]⟩, []⟩ outer⟩
  /-- There is a result, which is about to be taken. -/
  | taking {result : CallResult Reply} {host : Host}
      (hperform : h.perform plugin way.performed = ⟨some result, host⟩) : Inside h mailbox 2
      ⟨host, mailbox, .calling
        ⟨plugin, way, next,
          ⟨⟨⟨false, some result⟩, false, .taking⟩, .done, [some result]⟩, []⟩ outer⟩
  /-- The wait is over. -/
  | returned {result : CallResult Reply} {host : Host}
      (hperform : h.perform plugin way.performed = ⟨some result, host⟩) : Inside h mailbox 1
      ⟨host, mailbox, .calling
        ⟨plugin, way, next,
          ⟨⟨⟨false, none⟩, false, .returned result⟩, .done, [some result]⟩, []⟩ outer⟩

variable {plugin way next outer} {h : Host} {mailbox : List Chore} {n : Nat} {b : Bench}

/-- A step of the thread brings the call nearer to its end, or ends it. -/
lemma Inside.work (hinside : Inside plugin way next outer h mailbox n b)
    (hfree : ∀ frame ∈ outer, frame.guard = none) :
    (∃ m < n, Inside plugin way next outer h mailbox m b.work) ∨
      b.work = ⟨(h.perform plugin way.performed).host, mailbox,
        ending plugin way next outer h⟩ := by
  cases hinside with
  | queued needs => exact .inl ⟨_, by omega, .holding needs⟩
  | holding needs => exact .inl ⟨_, by omega, .running needs⟩
  | running needs =>
    cases needs with
    | cons guard needs =>
      refine .inl ⟨needs.length + 6, by rw [List.length_cons]; omega, ?_⟩
      simp only [Bench.work, attend, seize, isHeld_eq_false hfree, Bool.false_eq_true, if_false]
      exact .running needs
    | nil =>
      simp only [Bench.work, attend]
      rcases hperform : h.perform plugin way.performed with ⟨_ | result, host⟩
      · refine .inr ?_
        simp only [Errand.serve, ending, hperform]
      · refine .inl ⟨5, by simp, ?_⟩
        simp only [Errand.serve, hperform]
        exact .finished hperform
  | finished hperform => exact .inl ⟨4, by omega, .leaving hperform⟩
  | leaving hperform => exact .inl ⟨3, by omega, .waiting hperform⟩
  | waiting hperform => exact .inl ⟨2, by omega, .taking hperform⟩
  | taking hperform => exact .inl ⟨1, by omega, .returned hperform⟩
  | returned hperform =>
    refine .inr ?_
    rw [ending, hperform]
    rfl

/-- When the time bound passes, the call is not begun to be waited for, or there is a result. -/
lemma Inside.expire (hinside : Inside plugin way next outer h mailbox n b) :
    ∃ m ≤ n, Inside plugin way next outer h mailbox m b.expire := by
  cases hinside with
  | queued needs => exact ⟨_, Nat.le_refl _, .queued needs⟩
  | holding needs => exact ⟨_, Nat.le_refl _, .holding needs⟩
  | running needs => exact ⟨_, Nat.le_refl _, .running needs⟩
  | finished hperform => exact ⟨_, Nat.le_refl _, .finished hperform⟩
  | leaving hperform => exact ⟨_, Nat.le_refl _, .leaving hperform⟩
  | waiting hperform => exact ⟨2, by omega, .taking hperform⟩
  | taking hperform => exact ⟨_, Nat.le_refl _, .taking hperform⟩
  | returned hperform => exact ⟨_, Nat.le_refl _, .returned hperform⟩

lemma Inside.submit (hinside : Inside plugin way next outer h mailbox n b) (job : Chore) :
    Inside plugin way next outer h (mailbox ++ [job]) n (b.step (.submit job)) := by
  cases hinside with
  | queued needs => exact .queued needs
  | holding needs => exact .holding needs
  | running needs => exact .running needs
  | finished hperform => exact .finished hperform
  | leaving hperform => exact .leaving hperform
  | waiting hperform => exact .waiting hperform
  | taking hperform => exact .taking hperform
  | returned hperform => exact .returned hperform

lemma Inside.calling (hinside : Inside plugin way next outer h mailbox n b) :
    ∃ visit, b.duty = .calling visit outer := by
  cases hinside <;> exact ⟨_, rfl⟩

end Inside

/-- From `b` on, the thread comes to `duty` with the host `h`, whatever the others do and whenever
the time bound passes.  Until then it is inside a call, for less than `n` of its steps, and takes
nothing out of the mailbox. -/
def Reaches (n : Nat) (b : Bench) (outer : List Frame) (duty : Duty) (h : Host) : Prop :=
  ∀ events : List Event,
    (events.countP Event.isWork < n ∧ ∃ visit, (b.run events).duty = .calling visit outer) ∨
      ∃ front, front <+: events ∧ b.run front = ⟨h, b.mailbox ++ submitted front, duty⟩

section Calls

variable {plugin : PluginId} {way : CallWay} {next : Int32 × Option Reply → Chore}
  {outer : List Frame} {h : Host} {mailbox : List Chore} {n : Nat} {b : Bench}

lemma Inside.mailbox_eq (hinside : Inside plugin way next outer h mailbox n b) :
    b.mailbox = mailbox := by
  cases hinside <;> rfl

lemma Inside.reaches (hinside : Inside plugin way next outer h mailbox n b)
    (hfree : ∀ frame ∈ outer, frame.guard = none) :
    Reaches n b outer (ending plugin way next outer h) (h.perform plugin way.performed).host := by
  intro events
  induction events generalizing mailbox n b with
  | nil =>
    refine .inl ⟨?_, hinside.calling⟩
    cases hinside <;> exact Nat.succ_pos _
  | cons event events ih =>
    -- an event behind which the call is still under way
    have hlater {m : Nat} {mailbox' : List Chore}
        (hinside' : Inside plugin way next outer h mailbox' m (b.step event))
        (hm : m + [event].countP Event.isWork ≤ n)
        (hmailbox : mailbox' = b.mailbox ++ submitted [event]) :
        ((event :: events).countP Event.isWork < n ∧
            ∃ visit, (b.run (event :: events)).duty = .calling visit outer) ∨
          ∃ front, front <+: event :: events ∧
            b.run front = ⟨(h.perform plugin way.performed).host, b.mailbox ++ submitted front,
              ending plugin way next outer h⟩ := by
      obtain ⟨hcount, hcalling⟩ | ⟨front, hfront, hrun⟩ := ih hinside'
      · refine .inl ⟨?_, hcalling⟩
        rw [← List.singleton_append, List.countP_append]
        omega
      · refine .inr ⟨event :: front, List.prefix_cons_inj event |>.2 hfront, ?_⟩
        rw [run_cons, hrun, hinside'.mailbox_eq, hmailbox, List.append_assoc]
        cases event <;> rfl
    cases event with
    | work =>
      obtain ⟨m, hm, hinside'⟩ | hended := hinside.work hfree
      · exact hlater hinside' hm (by rw [hinside.mailbox_eq]; exact (List.append_nil _).symm)
      · refine .inr ⟨[.work], List.prefix_cons_inj _ |>.2 List.nil_prefix, ?_⟩
        rw [hinside.mailbox_eq]
        show b.work = _
        rw [hended]
        exact congrArg (Bench.mk _ · _) (List.append_nil _).symm
    | clock =>
      obtain ⟨m, hm, hinside'⟩ := hinside.expire
      exact hlater hinside' hm (by rw [hinside.mailbox_eq]; exact (List.append_nil _).symm)
    | submit job =>
      exact hlater (hinside.submit job) (Nat.le_refl _) (by rw [hinside.mailbox_eq]; rfl)

end Calls

/-! ## The comparison -/

/-- A crash leaves the host alone. -/
lemma perform_host_of_crash {h : Host} {plugin : PluginId} {call : Call}
    (hcrash : (h.perform plugin call).result = none) : (h.perform plugin call).host = h := by
  have heffect := h.perform_effect plugin call
  generalize h.perform plugin call = outcome at hcrash heffect ⊢
  cases heffect with
  | crashed => rfl
  | lent host name contents hledger hallocator =>
    unfold Host.lend at hcrash
    split at hcrash <;> cases hcrash
  | refused | answered | freed | missed => cases hcrash

lemma conclude_ne_timeout (way : CallWay) {result : CallResult Reply}
    (hresult : result ≠ .error .apiRequestTimeout) (service : Service) :
    (way.conclude (some result) service).status ≠ ErrorCode.apiRequestTimeout.raw := by
  unfold CallWay.conclude
  cases result with
  | error code =>
    have hcode : code.raw ≠ ErrorCode.apiRequestTimeout.raw := fun hraw =>
      hresult (congrArg _ (Status.raw_inj.1 hraw))
    cases way.call? <;> exact hcode
  | ok reply =>
    cases way.call? with
    | none =>
      show ErrorCode.genericError.raw ≠ _
      decide
    | some call => exact (Service.raw_ne_ok _).symm

section Comparison

variable {b : Bench} {plugin : PluginId} {way : CallWay} {next : Int32 × Option Reply → Chore}
  {outer : List Frame}

lemma work_call (hduty : b.duty = .running (.call plugin way next) outer) :
    b.work = ⟨b.host, b.mailbox, .calling
      ⟨plugin, way, next, .start, b.host.needs plugin way.performed⟩ outer⟩ := by
  rw [work, hduty]
  rfl

lemma reaches_ending (hduty : b.duty = .running (.call plugin way next) outer)
    (hfree : ∀ frame ∈ outer, frame.guard = none) :
    b.work.Reaches 10 outer (ending plugin way next outer b.host)
      (b.host.perform plugin way.performed).host := by
  have hneeds := b.host.length_needs plugin way.performed
  have hinside : Inside plugin way next outer b.host b.mailbox
      ((b.host.needs plugin way.performed).length + 8) b.work := by
    rw [work_call hduty]
    exact .queued _
  intro events
  refine (hinside.reaches hfree events).imp (fun ⟨hcount, hcalling⟩ => ⟨?_, hcalling⟩) id
  omega

/-- **A call from inside a job is like one from another thread.**  Let a job on the host's thread
make a call, inside any number of other jobs, none of which holds on to anything.  If a caller on
another thread, given time to finish, returns from the same call to the same host, then what it
returns is not the timeout; and the job goes on with the same status, the same reply and the same
host, after less than ten steps of the thread, whatever is put into the mailbox and whenever the
time bound passes.

The other caller does return, unless the call crashes.  Then the host is left alone, and either the
job is told of an internal error or it is over as well. -/
theorem call_inline (hduty : b.duty = .running (.call plugin way next) outer)
    (hfree : ∀ frame ∈ outer, frame.guard = none) :
    (∀ (order : List Party) (result : CallResult Reply), Party.clock ∉ order →
      let x := (Exchange.start b.host).run plugin way.performed order
      let entered := way.conclude (some result) ⟨x.host, true⟩
      x.errand.returned? = some result →
        (∀ thread, (⟨b.host, true⟩ : Service).serve ⟨thread, plugin, way⟩ = entered) ∧
        entered.status ≠ ErrorCode.apiRequestTimeout.raw ∧
        b.work.Reaches 10 outer (.running (next entered.answer) outer) x.host) ∧
    ((b.host.perform plugin way.performed).result ≠ none → ∃ order, Party.clock ∉ order ∧
      ((Exchange.start b.host).run plugin way.performed order).errand.returned?.isSome) ∧
    ((b.host.perform plugin way.performed).result = none →
      b.work.Reaches 10 outer (aborted way next outer) b.host) := by
  have hreaches := reaches_ending hduty hfree
  refine ⟨fun order result hclock => ?_, fun hnormal => ?_, fun hcrash => ?_⟩
  · intro x entered hreturned
    obtain ⟨hresult, hne, hhost⟩ := Exchange.performed_of_patient hclock hreturned
    have hhost : x.host = (b.host.perform plugin way.performed).host := hhost
    have hperform : b.host.perform plugin way.performed = ⟨some result, x.host⟩ := by
      rw [hhost, ← hresult]
    refine ⟨fun thread => ?_, conclude_ne_timeout way hne _, ?_⟩
    · rw [Service.serve_eq_conclude,
        Service.call_of_result (s := ⟨b.host, true⟩) thread plugin way.performed rfl hperform]
      rfl
    · have hending : ending plugin way next outer b.host =
          .running (next entered.answer) outer := by
        rw [ending, hperform]
      rw [hending, ← hhost] at hreaches
      exact hreaches
  · rcases hperform : b.host.perform plugin way.performed with ⟨_ | result, host⟩
    · exact absurd (congrArg Outcome.result hperform) hnormal
    · refine ⟨List.replicate 5 .host ++ List.replicate 2 .caller, by decide, ?_⟩
      rw [Exchange.returned?_patient hperform]
      rfl
  · have hending : ending plugin way next outer b.host = aborted way next outer := by
      rw [ending, hcrash]
    rw [hending, perform_host_of_crash hcrash] at hreaches
    exact hreaches

/-- A plugin asks on the host's thread who the local user is, from a job in a job in a job. -/
theorem call_inline_lonely :
    let way : CallWay := .entry .v1_2 (.plain (.onSession 0 .getLocalUserId)) ⟨true, false⟩
    let next (answer : Int32 × Option Reply) : Chore :=
      if answer = (Status.ok, some (.user 1)) then .done else .crash
    let job : Chore := .execute none (.execute none (.call 3 way next) .done) .done
    let b := (⟨.lonely, [job], .idle⟩ : Bench).run (List.replicate 3 .work)
    let outer : List Frame := List.replicate 2 ⟨.done, none⟩
    b.duty = .running (.call 3 way next) outer ∧
      b.work.Reaches 10 outer (.running (next (Status.ok, some (.user 1))) outer) .lonely := by
  intro way next job b outer
  have hduty : b.duty = .running (.call 3 way next) outer := rfl
  obtain ⟨hsame, -, -⟩ := call_inline hduty (by simp [outer])
  obtain ⟨-, -, hreaches⟩ := hsame (List.replicate 5 .host ++ List.replicate 2 .caller)
    (.ok (.user 1)) (by decide) rfl
  exact ⟨hduty, hreaches⟩

/-! ## A job that is in the way -/

/-- The call under way is about to make use of something. -/
def Wants (b : Bench) (guard : Guard) : Prop :=
  ∃ visit outer, b.duty = .calling visit outer ∧ visit.needs.head? = some guard

lemma Inside.of_held {h : Host} {mailbox : List Chore} {n : Nat}
    (hinside : Inside plugin way next outer h mailbox n b) (hwants : b.Wants .settings)
    (hheld : isHeld outer .settings = true) (event : Event) :
    (∃ n mailbox, Inside plugin way next outer h mailbox n (b.step event)) ∧
      (b.step event).Wants .settings := by
  obtain ⟨visit, outer', hduty, hneeds⟩ := hwants
  cases event with
  | submit job => exact ⟨⟨n, _, hinside.submit job⟩, visit, outer', hduty, hneeds⟩
  | clock =>
    obtain ⟨m, -, hinside'⟩ := hinside.expire
    refine ⟨⟨m, mailbox, hinside'⟩, ?_⟩
    cases hinside with
    | queued | holding | running => exact ⟨visit, outer', hduty, hneeds⟩
    | finished | leaving | waiting | taking | returned =>
      cases hduty
      cases hneeds
  | work =>
    cases hinside with
    | queued needs =>
      cases hduty
      exact ⟨⟨_, _, .holding needs⟩, _, _, rfl, hneeds⟩
    | holding needs =>
      cases hduty
      exact ⟨⟨_, _, .running needs⟩, _, _, rfl, hneeds⟩
    | running needs =>
      cases hduty
      cases needs with
      | nil => cases hneeds
      | cons guard needs =>
        cases hneeds
        -- the settings are locked by a job that waits for this one
        simp only [Bench.step, Bench.work, attend, seize, hheld, if_true]
        exact ⟨⟨_, _, .running _⟩, _, _, rfl, rfl⟩
    | finished | leaving | waiting | taking | returned =>
      cases hduty
      cases hneeds

/-- A job that keeps the settings locked while a job inside it makes a call that needs them waits
for ever, and so does everybody else: no time bound ends this. -/
theorem run_of_held (hduty : b.duty = .running (.call plugin way next) outer)
    (hneeds : (b.host.needs plugin way.performed).head? = some .settings)
    (hheld : isHeld outer .settings = true) (events : List Event) :
    ∃ visit, (b.work.run events).duty = .calling visit outer := by
  have hstuck : ∀ {b' : Bench}, (∃ n mailbox, Inside plugin way next outer b.host mailbox n b') →
      b'.Wants .settings → ∃ visit, (b'.run events).duty = .calling visit outer := by
    induction events with
    | nil =>
      intro b' hinside _
      obtain ⟨n, mailbox, hinside⟩ := hinside
      exact hinside.calling
    | cons event events ih =>
      intro b' hinside hwants
      obtain ⟨n, mailbox, hinside⟩ := hinside
      obtain ⟨hinside', hwants'⟩ := hinside.of_held hwants hheld event
      exact ih hinside' hwants'
  rw [work_call hduty]
  exact hstuck ⟨_, _, .queued _⟩ ⟨_, _, rfl, hneeds⟩

end Comparison

end Bench

end PluginHost
