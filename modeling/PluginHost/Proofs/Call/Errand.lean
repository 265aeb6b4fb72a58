/-
# One call, step by step

A caller on a thread of its own hands a call over and waits, while the host takes the call out of
its queue, takes hold of the cancel flag, looks whether the caller has given up, performs the call,
stores the result and lets go of the flag again.  An `Errand` is the state of both of them, and a
`Party` says which of them moves next, or that the time bound of the caller passes.

The flag and the slot of the promise are apart from each other, so the argument needs what is true
of the wait as long as the host has not stored anything (`Handover.Unserved`) and what is true once
it has (`Handover.Served`).  The caller leads from each of the two only to itself, and the host
leads from the first to the second, which it does with the flag in its hand.

It follows that the caller gets the result of the call if the call is performed, and that a call
that has timed out is not performed, neither before nor after (`Exchange.delivered`).
-/
import PluginHost.Call.Service
import PluginHost.Proofs.Call.Effect

namespace PluginHost

namespace Handover

variable {α : Type}

/-- Nothing has been stored but, maybe, the timeout of the caller itself. -/
def Unserved (h : Handover α) : Prop :=
  match h.waiter with
  | .waiting | .expired => h.promise.cancelled = false ∧ h.promise.slot = none
  | .rechecking | .abandoning => h.promise.cancelled = true ∧ h.promise.slot = none
  | .taking => h.promise.cancelled = true ∧ h.promise.slot = some (.error .apiRequestTimeout)
  | .returned result =>
    h.promise.cancelled = true ∧ h.promise.slot = none ∧ result = .error .apiRequestTimeout

/-- A result is stored, or has been returned. -/
def Served (result : CallResult α) (h : Handover α) : Prop :=
  match h.waiter with
  | .waiting | .expired | .rechecking | .taking => h.promise.slot = some result
  | .abandoning => False
  | .returned result' => h.promise.slot = none ∧ result' = result

lemma unserved_start : (start (.new : Promise α)).Unserved := ⟨rfl, rfl⟩

lemma served_start_fulfil (result : CallResult α) :
    Served result (start ((.new : Promise α).fulfil result)) := rfl

/-- What the caller makes of the wait by itself: it goes on, or its time bound passes. -/
inductive Onward (h : Handover α) : Handover α → Prop
  | proceed : Onward h h.proceed
  | expire : Onward h h.expire

variable {h h' : Handover α} {result : CallResult α}

lemma result?_eq_some_iff : h.result? = some result ↔ h.waiter = .returned result := by
  obtain ⟨promise, held, waiter⟩ := h
  cases waiter <;> simp [result?]

lemma Unserved.proceed (hunserved : h.Unserved) : h.proceed.Unserved := by
  obtain ⟨⟨cancelled, slot⟩, held, waiter⟩ := h
  cases waiter with
  | waiting =>
    obtain ⟨rfl, rfl⟩ := hunserved
    exact ⟨rfl, rfl⟩
  | expired =>
    -- the caller cancels only when nobody holds the flag
    obtain ⟨rfl, rfl⟩ := hunserved
    cases held with
    | false => exact ⟨rfl, rfl⟩
    | true => exact ⟨rfl, rfl⟩
  | rechecking =>
    obtain ⟨rfl, rfl⟩ := hunserved
    exact ⟨rfl, rfl⟩
  | abandoning =>
    obtain ⟨rfl, rfl⟩ := hunserved
    exact ⟨rfl, rfl⟩
  | taking =>
    obtain ⟨rfl, rfl⟩ := hunserved
    exact ⟨rfl, rfl, rfl⟩
  | returned result => exact hunserved

lemma Unserved.expire (hunserved : h.Unserved) : h.expire.Unserved := by
  obtain ⟨⟨cancelled, slot⟩, held, waiter⟩ := h
  cases waiter with
  | waiting =>
    obtain ⟨rfl, rfl⟩ := hunserved
    exact ⟨rfl, rfl⟩
  | expired | rechecking | abandoning | taking | returned => exact hunserved

lemma Served.proceed (hserved : Served result h) : Served result h.proceed := by
  obtain ⟨⟨cancelled, slot⟩, held, waiter⟩ := h
  cases waiter with
  | waiting =>
    cases hserved
    rfl
  | expired =>
    cases hserved
    cases held with
    | false => rfl
    | true => rfl
  | rechecking =>
    -- the caller finds the result when it looks again
    cases hserved
    rfl
  | abandoning => cases hserved
  | taking =>
    cases hserved
    exact ⟨rfl, rfl⟩
  | returned result' => exact hserved

lemma Served.expire (hserved : Served result h) : Served result h.expire := by
  obtain ⟨⟨cancelled, slot⟩, held, waiter⟩ := h
  cases waiter with
  | waiting =>
    cases hserved
    rfl
  | expired | rechecking | abandoning | taking | returned => exact hserved

/-- A caller that has not given up gets what is stored for it. -/
lemma Unserved.store (hunserved : h.Unserved) (hopen : h.promise.cancelled = false) :
    Served result (h.step (.store result)) := by
  obtain ⟨⟨cancelled, slot⟩, held, waiter⟩ := h
  subst hopen
  cases waiter with
  | waiting | expired =>
    obtain ⟨-, rfl⟩ := hunserved
    rfl
  | rechecking | abandoning | taking | returned => cases hunserved.1

lemma Unserved.returned (hunserved : h.Unserved) (hreturned : h.result? = some result) :
    result = .error .apiRequestTimeout ∧ h.promise.cancelled = true := by
  rw [result?_eq_some_iff] at hreturned
  simp only [Unserved, hreturned] at hunserved
  exact ⟨hunserved.2.2, hunserved.1⟩

lemma Served.returned (hserved : Served result h) {result' : CallResult α}
    (hreturned : h.result? = some result') : result' = result := by
  rw [result?_eq_some_iff] at hreturned
  simp only [Served, hreturned] at hserved
  exact hserved.2

/-- If nobody holds the flag and nobody else moves, the caller returns. -/
lemma isSome_result?_alone (hheld : h.held = false)
    (hcases : h.Unserved ∨ ∃ result, Served result h) : (h.run alone).result?.isSome := by
  obtain ⟨⟨cancelled, slot⟩, held, waiter⟩ := h
  subst hheld
  obtain hunserved | ⟨result, hserved⟩ := hcases
  · cases waiter with
    | returned result => rfl
    | waiting | expired | rechecking | abandoning | taking =>
      obtain ⟨rfl, rfl⟩ := hunserved
      rfl
  · cases waiter with
    | returned result' => rfl
    | abandoning => cases hserved
    | waiting | expired | rechecking | taking =>
      cases hserved
      rfl

namespace Onward

lemma unserved (honward : h.Onward h') (hunserved : h.Unserved) : h'.Unserved := by
  cases honward with
  | proceed => exact hunserved.proceed
  | expire => exact hunserved.expire

lemma served (honward : h.Onward h') (hserved : Served result h) : Served result h' := by
  cases honward with
  | proceed => exact hserved.proceed
  | expire => exact hserved.expire

lemma held_eq (honward : h.Onward h') : h'.held = h.held := by
  obtain ⟨⟨cancelled, slot⟩, held, waiter⟩ := h
  cases honward with
  | proceed => cases waiter <;> cases slot <;> cases held <;> rfl
  | expire => cases waiter <;> rfl

/-- While the flag is held the caller does not cancel. -/
lemma cancelled_eq (honward : h.Onward h') (hheld : h.held = true) :
    h'.promise.cancelled = h.promise.cancelled := by
  obtain ⟨⟨cancelled, slot⟩, held, waiter⟩ := h
  subst hheld
  cases honward with
  | proceed => cases waiter <;> cases slot <;> rfl
  | expire => cases waiter <;> rfl

/-- A caller that has given up has done so for good. -/
lemma cancelled (honward : h.Onward h') (hcancelled : h.promise.cancelled = true) :
    h'.promise.cancelled = true := by
  obtain ⟨⟨cancelled, slot⟩, held, waiter⟩ := h
  subst hcancelled
  cases honward with
  | proceed => cases waiter <;> cases slot <;> cases held <;> rfl
  | expire => cases waiter <;> rfl

/-- A caller that has returned does nothing any more. -/
lemma eq_of_returned (honward : h.Onward h') (hreturned : h.result? = some result) : h' = h := by
  rw [result?_eq_some_iff] at hreturned
  cases honward with
  | proceed => simp only [Handover.proceed, hreturned]
  | expire => simp only [Handover.expire, hreturned]

end Onward

end Handover

/-! ## The two parties -/

/-- How far the host has come with a call. -/
inductive Task where
  /-- The call waits in the queue. -/
  | queued
  /-- The host has hold of the cancel flag, and is about to look at it. -/
  | holding
  /-- The caller had not given up; the host is about to perform the call. -/
  | running
  /-- The call has been performed; the host is about to store the result. -/
  | finished (result : CallResult Reply)
  /-- The host is about to let go of the flag. -/
  | leaving
  /-- The host is done with the call. -/
  | done

/-- A call on its way. -/
structure Errand where
  /-- The wait of the caller. -/
  handover : Handover Reply
  /-- How far the host has come. -/
  task : Task
  /-- The results of the call, once for every time that it was performed; `none` for a crash. -/
  runs : List (Option (CallResult Reply))

/-- How many moves the host needs at most until it is done with the call. -/
def Task.remaining : Task → Nat
  | queued => 5
  | holding => 4
  | running => 3
  | finished _ => 2
  | leaving => 1
  | done => 0

namespace Errand

/-- A call that has just been handed over. -/
def start : Errand := ⟨.start .new, .queued, []⟩

/-- What the caller has returned. -/
def returned? (e : Errand) : Option (CallResult Reply) := e.handover.result?

/-- The caller goes on. -/
def proceed (e : Errand) : Errand := { e with handover := e.handover.proceed }

/-- The time bound of the caller passes. -/
def expire (e : Errand) : Errand := { e with handover := e.handover.expire }

/-- The host goes on with `call`, made by `plugin`.  A crash lets go of the flag like everything
else that ends the piece of work, but stores nothing. -/
def serve (plugin : PluginId) (call : Call) (h : Host) (e : Errand) : Host × Errand :=
  match e.task with
  | .queued => (h, { e with handover := e.handover.step .hold, task := .holding })
  | .holding =>
    (h, { e with task := if e.handover.promise.cancelled then .leaving else .running })
  | .running =>
    match h.perform plugin call with
    | ⟨none, host⟩ => (host, { e with task := .leaving, runs := e.runs ++ [none] })
    | ⟨some result, host⟩ =>
      (host, { e with task := .finished result, runs := e.runs ++ [some result] })
  | .finished result =>
    (h, { e with handover := e.handover.step (.store result), task := .leaving })
  | .leaving => (h, { e with handover := e.handover.step .release, task := .done })
  | .done => (h, e)

/-- What the host can have done with a call by the time it is done with it. -/
inductive Settled : Handover Reply → List (Option (CallResult Reply)) → Prop
  /-- The caller had given up, and the call was skipped. -/
  | skipped {handover : Handover Reply} (hunserved : handover.Unserved)
      (hcancelled : handover.promise.cancelled = true) : Settled handover []
  /-- The call crashed. -/
  | crashed {handover : Handover Reply} (hunserved : handover.Unserved) : Settled handover [none]
  /-- The call was performed. -/
  | served {handover : Handover Reply} {result : CallResult Reply}
      (hserved : handover.Served result) (hresult : result ≠ .error .apiRequestTimeout) :
      Settled handover [some result]

/-- The calls on their way that come about, by how far the host has come. -/
inductive Sound : Errand → Prop
  | queued {handover : Handover Reply} (hunserved : handover.Unserved)
      (hheld : handover.held = false) : Sound ⟨handover, .queued, []⟩
  | holding {handover : Handover Reply} (hunserved : handover.Unserved)
      (hheld : handover.held = true) : Sound ⟨handover, .holding, []⟩
  | running {handover : Handover Reply} (hunserved : handover.Unserved)
      (hheld : handover.held = true) (hopen : handover.promise.cancelled = false) :
      Sound ⟨handover, .running, []⟩
  | finished {handover : Handover Reply} {result : CallResult Reply}
      (hunserved : handover.Unserved) (hheld : handover.held = true)
      (hopen : handover.promise.cancelled = false)
      (hresult : result ≠ .error .apiRequestTimeout) :
      Sound ⟨handover, .finished result, [some result]⟩
  | leaving {handover : Handover Reply} {runs : List (Option (CallResult Reply))}
      (hsettled : Settled handover runs) (hheld : handover.held = true) :
      Sound ⟨handover, .leaving, runs⟩
  | done {handover : Handover Reply} {runs : List (Option (CallResult Reply))}
      (hsettled : Settled handover runs) (hheld : handover.held = false) :
      Sound ⟨handover, .done, runs⟩

lemma sound_start : Sound start := .queued Handover.unserved_start rfl

variable {e : Errand} {handover : Handover Reply} {runs : List (Option (CallResult Reply))}

lemma Settled.onward (hsettled : Settled handover runs) {handover' : Handover Reply}
    (honward : handover.Onward handover') : Settled handover' runs := by
  cases hsettled with
  | skipped hunserved hcancelled =>
    exact .skipped (honward.unserved hunserved) (honward.cancelled hcancelled)
  | crashed hunserved => exact .crashed (honward.unserved hunserved)
  | served hserved hresult => exact .served (honward.served hserved) hresult

lemma Settled.release (hsettled : Settled handover runs) :
    Settled (handover.step .release) runs := by
  cases hsettled with
  | skipped hunserved hcancelled => exact .skipped hunserved hcancelled
  | crashed hunserved => exact .crashed hunserved
  | served hserved hresult => exact .served hserved hresult

/-- The caller goes on by itself. -/
lemma Sound.onward (hsound : e.Sound) {handover' : Handover Reply}
    (honward : e.handover.Onward handover') : Sound { e with handover := handover' } := by
  have hheld' := honward.held_eq
  cases hsound with
  | queued hunserved hheld => exact .queued (honward.unserved hunserved) (hheld'.trans hheld)
  | holding hunserved hheld => exact .holding (honward.unserved hunserved) (hheld'.trans hheld)
  | running hunserved hheld hopen =>
    -- the host looked at the flag and still has it, so it is as it was then
    have hopen' := (honward.cancelled_eq hheld).trans hopen
    exact .running (honward.unserved hunserved) (hheld'.trans hheld) hopen'
  | finished hunserved hheld hopen hresult =>
    have hopen' := (honward.cancelled_eq hheld).trans hopen
    exact .finished (honward.unserved hunserved) (hheld'.trans hheld) hopen' hresult
  | leaving hsettled hheld => exact .leaving (hsettled.onward honward) (hheld'.trans hheld)
  | done hsettled hheld => exact .done (hsettled.onward honward) (hheld'.trans hheld)

variable (plugin : PluginId) (call : Call) (h : Host)

lemma serve_of_running (htask : e.task = .running) :
    (e.serve plugin call h).1 = (h.perform plugin call).host ∧
      (e.serve plugin call h).2.runs = e.runs ++ [(h.perform plugin call).result] := by
  obtain ⟨handover, task, runs⟩ := e
  obtain rfl : task = .running := htask
  rcases hperform : h.perform plugin call with ⟨_ | result, host⟩
  · simp [serve, hperform]
  · simp [serve, hperform]

/-- The only step of the host that performs anything is the one from `Task.running`. -/
lemma serve_of_ne_running (htask : e.task ≠ .running) :
    (e.serve plugin call h).1 = h ∧ (e.serve plugin call h).2.runs = e.runs := by
  obtain ⟨handover, task, runs⟩ := e
  cases task with
  | running => exact absurd rfl htask
  | queued | holding | finished | leaving | done => exact ⟨rfl, rfl⟩

variable {plugin call h}

lemma Sound.runs_of_running (hsound : e.Sound) (htask : e.task = .running) : e.runs = [] := by
  cases hsound with
  | running hunserved hheld hopen => rfl
  | queued => rfl
  | holding => rfl
  | finished => cases htask
  | leaving => cases htask
  | done => cases htask

lemma Sound.serve (hsound : e.Sound) : (e.serve plugin call h).2.Sound := by
  cases hsound with
  | queued hunserved hheld => exact .holding hunserved rfl
  | @holding handover hunserved hheld =>
    -- here it is decided whether the call is performed
    rcases hcancelled : handover.promise.cancelled with _ | _
    · simp only [Errand.serve, hcancelled, Bool.false_eq_true, if_false]
      exact .running hunserved hheld hcancelled
    · simp only [Errand.serve, hcancelled, if_true]
      exact .leaving (.skipped hunserved hcancelled) hheld
  | running hunserved hheld hopen =>
    have hresult := (h.perform_effect plugin call).result_ne_timeout
    rcases hperform : h.perform plugin call with ⟨_ | result, host⟩
    · simp only [Errand.serve, hperform, List.nil_append]
      exact .leaving (.crashed hunserved) hheld
    · rw [hperform] at hresult
      simp only [Errand.serve, hperform, List.nil_append]
      refine .finished hunserved hheld hopen ?_
      rintro rfl
      exact hresult rfl
  | finished hunserved hheld hopen hresult =>
    exact .leaving (.served (hunserved.store hopen) hresult) hheld
  | leaving hsettled hheld => exact .done hsettled.release rfl
  | done hsettled hheld => exact .done hsettled hheld

lemma Settled.of_returned (hsettled : Settled handover runs) {returned : CallResult Reply}
    (hreturned : handover.result? = some returned) :
    returned = .error .apiRequestTimeout ∧ (runs = [] ∨ runs = [none]) ∨
      returned ≠ .error .apiRequestTimeout ∧ runs = [some returned] := by
  cases hsettled with
  | skipped hunserved hcancelled => exact .inl ⟨(hunserved.returned hreturned).1, .inl rfl⟩
  | crashed hunserved => exact .inl ⟨(hunserved.returned hreturned).1, .inr rfl⟩
  | served hserved hresult =>
    obtain rfl := hserved.returned hreturned
    exact .inr ⟨hresult, rfl⟩

/-- What a caller has returned tells what the host has done with the call: nothing, or a crash,
if it is the timeout, and otherwise the host has performed the call with this result. -/
lemma Sound.of_returned (hsound : e.Sound) {returned : CallResult Reply}
    (hreturned : e.returned? = some returned) :
    returned = .error .apiRequestTimeout ∧ (e.runs = [] ∨ e.runs = [none]) ∨
      returned ≠ .error .apiRequestTimeout ∧ e.runs = [some returned] := by
  cases hsound with
  | queued hunserved hheld => exact .inl ⟨(hunserved.returned hreturned).1, .inl rfl⟩
  | holding hunserved hheld => exact .inl ⟨(hunserved.returned hreturned).1, .inl rfl⟩
  | running hunserved hheld hopen => exact .inl ⟨(hunserved.returned hreturned).1, .inl rfl⟩
  | finished hunserved hheld hopen hresult =>
    -- the caller cannot have given up yet, so it has not returned
    have hcancelled := (hunserved.returned hreturned).2
    rw [hopen] at hcancelled
    cases hcancelled
  | leaving hsettled hheld => exact hsettled.of_returned hreturned
  | done hsettled hheld => exact hsettled.of_returned hreturned

lemma remaining_serve (e : Errand) :
    (e.serve plugin call h).2.task.remaining ≤ e.task.remaining - 1 := by
  obtain ⟨⟨⟨cancelled, slot⟩, held, waiter⟩, task, runs⟩ := e
  cases task with
  | holding => cases cancelled <;> simp [Errand.serve, Task.remaining]
  | running =>
    rcases hperform : h.perform plugin call with ⟨_ | result, host⟩
    · simp [Errand.serve, hperform, Task.remaining]
    · simp [Errand.serve, hperform, Task.remaining]
  | queued | finished | leaving | done => exact Nat.le_refl _

/-- What a caller has returned is not for the host to change. -/
lemma returned?_serve (e : Errand) : (e.serve plugin call h).2.returned? = e.returned? := by
  obtain ⟨handover, task, runs⟩ := e
  cases task with
  | running =>
    rcases hperform : h.perform plugin call with ⟨_ | result, host⟩
    · simp [Errand.serve, hperform, returned?]
    · simp [Errand.serve, hperform, returned?]
  | queued | holding | finished | leaving | done => rfl

lemma Sound.unserved_or_served (hsound : e.Sound) :
    e.handover.Unserved ∨ ∃ result, e.handover.Served result := by
  have hsettled {handover runs} (hsettled : Settled handover runs) :
      handover.Unserved ∨ ∃ result, handover.Served result := by
    cases hsettled with
    | skipped hunserved hcancelled => exact .inl hunserved
    | crashed hunserved => exact .inl hunserved
    | served hserved hresult => exact .inr ⟨_, hserved⟩
  cases hsound with
  | queued hunserved => exact .inl hunserved
  | holding hunserved => exact .inl hunserved
  | running hunserved => exact .inl hunserved
  | finished hunserved => exact .inl hunserved
  | leaving h => exact hsettled h
  | done h => exact hsettled h

end Errand

/-! ## Exchanges -/

/-- The host, and one call on its way. -/
structure Exchange where
  /-- The host. -/
  host : Host
  /-- The call. -/
  errand : Errand

/-- Who moves next. -/
inductive Party where
  /-- The caller, as far as it is allowed to. -/
  | caller
  /-- The clock: the time bound of the caller passes. -/
  | clock
  /-- The host. -/
  | host
deriving DecidableEq, Repr

namespace Exchange

/-- A call has just been handed over to the host `h`. -/
def start (h : Host) : Exchange := ⟨h, .start⟩

section Run

variable (plugin : PluginId) (call : Call)

/-- One move, where the call is `call`, made by `plugin`. -/
def step (x : Exchange) : Party → Exchange
  | .caller => { x with errand := x.errand.proceed }
  | .clock => { x with errand := x.errand.expire }
  | .host =>
    let (host, errand) := x.errand.serve plugin call x.host
    ⟨host, errand⟩

/-- An order of moves. -/
def run (x : Exchange) (order : List Party) : Exchange := order.foldl (step plugin call) x

/-- An order of moves in which everything comes to its end: first the host is let go on, and then
the caller, whose time bound has passed. -/
def finish : List Party := List.replicate 5 .host ++ .clock :: List.replicate 4 .caller

lemma run_append (x : Exchange) (order order' : List Party) :
    x.run plugin call (order ++ order') = (x.run plugin call order).run plugin call order' :=
  List.foldl_append

/-- What is true after any moves: the call is on its way, and the host is as it was, unless the
call has been performed, which then happened once. -/
structure Traced (h : Host) (x : Exchange) : Prop where
  /-- The call has come to where it is in one of the possible ways. -/
  sound : x.errand.Sound
  /-- The host is as it was, or the call has been performed on it. -/
  performed : x.errand.runs = [] ∧ x.host = h ∨
    x.errand.runs = [(h.perform plugin call).result] ∧ x.host = (h.perform plugin call).host

end Run

variable {plugin : PluginId} {call : Call} {h : Host} {x : Exchange}

lemma traced_start : Traced plugin call h (start h) := ⟨Errand.sound_start, .inl ⟨rfl, rfl⟩⟩

lemma Traced.step (htraced : Traced plugin call h x) (party : Party) :
    Traced plugin call h (x.step plugin call party) := by
  cases party with
  | caller => exact ⟨htraced.sound.onward .proceed, htraced.performed⟩
  | clock => exact ⟨htraced.sound.onward .expire, htraced.performed⟩
  | host =>
    refine ⟨htraced.sound.serve, ?_⟩
    simp only [Exchange.step]
    by_cases htask : x.errand.task = .running
    · -- the call has not been performed before this step, so the host is still as it was
      obtain ⟨hhost, hruns⟩ := Errand.serve_of_running plugin call x.host htask
      have hbefore := htraced.sound.runs_of_running htask
      obtain ⟨-, hsame⟩ | ⟨hafter, -⟩ := htraced.performed
      · rw [hhost, hruns, hbefore, hsame]
        exact .inr ⟨rfl, rfl⟩
      · rw [hbefore] at hafter
        cases hafter
    · obtain ⟨hhost, hruns⟩ := Errand.serve_of_ne_running plugin call x.host htask
      rw [hhost, hruns]
      exact htraced.performed

lemma Traced.run (htraced : Traced plugin call h x) (order : List Party) :
    Traced plugin call h (x.run plugin call order) := by
  induction order generalizing x with
  | nil => exact htraced
  | cons party order ih => exact ih (htraced.step party)

lemma returned?_run {returned : CallResult Reply} (hreturned : x.errand.returned? = some returned)
    (order : List Party) : (x.run plugin call order).errand.returned? = some returned := by
  induction order generalizing x with
  | nil => exact hreturned
  | cons party order ih =>
    refine ih ?_
    cases party with
    | caller =>
      show x.errand.handover.proceed.result? = some returned
      rw [Handover.Onward.proceed.eq_of_returned hreturned]
      exact hreturned
    | clock =>
      show x.errand.handover.expire.result? = some returned
      rw [Handover.Onward.expire.eq_of_returned hreturned]
      exact hreturned
    | host =>
      show (x.errand.serve plugin call x.host).2.returned? = some returned
      rw [Errand.returned?_serve]
      exact hreturned

variable (plugin call) in
lemma remaining_run_host (x : Exchange) (n : Nat) :
    (x.run plugin call (List.replicate n .host)).errand.task.remaining ≤
      x.errand.task.remaining - n := by
  induction n generalizing x with
  | zero => exact Nat.le_refl _
  | succ n ih =>
    have hstep : (x.step plugin call .host).errand.task.remaining ≤ x.errand.task.remaining - 1 :=
      x.errand.remaining_serve
    have hrest := ih (x.step plugin call .host)
    rw [List.replicate_succ]
    show ((x.step plugin call .host).run plugin call
      (List.replicate n .host)).errand.task.remaining ≤ _
    omega

/-- Whatever has happened, the caller still comes to its end. -/
lemma Traced.isSome_returned?_finish (htraced : Traced plugin call h x) :
    (x.run plugin call finish).errand.returned?.isSome := by
  have hafter := htraced.run (List.replicate 5 .host)
  have hremaining := remaining_run_host plugin call x 5
  rw [finish, run_append]
  generalize x.run plugin call (List.replicate 5 .host) = y at hafter hremaining ⊢
  have hover : y.errand.task.remaining = 0 := by
    have hbound : x.errand.task.remaining ≤ 5 := by
      cases x.errand.task <;> simp [Task.remaining]
    omega
  have hheld : y.errand.handover.held = false := by
    obtain ⟨host, handover, task, runs⟩ := y
    cases hafter.sound with
    | done hsettled hheld => exact hheld
    | queued | holding | running | finished | leaving => cases hover
  exact Handover.isSome_result?_alone hheld hafter.sound.unserved_or_served

/-- A call and its caller fit together, whatever the order of moves.  If the call is performed
without a crash, then it is performed once, and its result is what the caller returns.  If the
caller returns the timeout, then the call has not been performed and never will be, and the host is
as it was.  And the caller can always come to its end. -/
theorem delivered (h : Host) (plugin : PluginId) (call : Call) {result : CallResult Reply}
    (hnormal : (h.perform plugin call).result = some result) (order : List Party) :
    let x := (start h).run plugin call order
    (x.errand.runs = [] ∨ x.errand.runs = [some result]) ∧
      (x.errand.runs ≠ [] → ∀ returned, x.errand.returned? = some returned → returned = result) ∧
      (x.errand.returned? = some (.error .apiRequestTimeout) → ∀ later,
        (x.run plugin call later).errand.runs = [] ∧ (x.run plugin call later).host = h) ∧
      (x.run plugin call finish).errand.returned?.isSome := by
  intro x
  have htraced : Traced plugin call h x := traced_start.run order
  have hperformed := htraced.performed
  rw [hnormal] at hperformed
  refine ⟨hperformed.imp And.left And.left, ?_, ?_, htraced.isSome_returned?_finish⟩
  · intro hruns returned hreturned
    obtain ⟨hnone, -⟩ | ⟨hsome, -⟩ := hperformed
    · exact absurd hnone hruns
    · obtain ⟨-, hruns'⟩ | ⟨-, hruns'⟩ := htraced.sound.of_returned hreturned
      · simp [hsome] at hruns'
      · simpa [hsome] using hruns'.symm
  · intro hreturned later
    -- the caller has still returned the timeout later on
    have hlater := htraced.run later
    have hperformed' := hlater.performed
    rw [hnormal] at hperformed'
    obtain ⟨-, hruns⟩ | ⟨hne, -⟩ := hlater.sound.of_returned (returned?_run hreturned later)
    · obtain hnone | ⟨hsome, -⟩ := hperformed'
      · exact hnone
      · simp [hsome] at hruns
    · exact absurd rfl hne

/-- The time bound passes while the host has hold of the flag: the caller gets the result. -/
theorem delivered_in_flight :
    let call := Call.onSession 0 .getLocalUserId
    let x := (start .lonely).run 3 call
      [.host, .host, .clock, .caller, .host, .host, .host, .caller, .caller, .caller]
    (Host.lonely.perform 3 call).result = some (.ok (.user 1)) ∧
      x.errand.returned?.isSome ∧
      ∀ returned, x.errand.returned? = some returned → returned = .ok (.user 1) := by
  intro call x
  have hnormal : (Host.lonely.perform 3 call).result = some (.ok (.user 1)) := rfl
  refine ⟨hnormal, rfl, (delivered .lonely 3 call hnormal _).2.1 ?_⟩
  decide

/-- The order in which the host has done everything before the caller looks is the one of
`Service.call`. -/
lemma run_finish_start (s : Service) (hrunning : s.running = true) :
    ((start s.host).run plugin call finish).errand.returned? = (s.call .plugin plugin call).1 ∧
      ((start s.host).run plugin call finish).host = (s.call .plugin plugin call).2.host := by
  have hbegun : (start s.host).run plugin call (List.replicate 2 .host) =
      ⟨s.host, ⟨⟨.new, true, .waiting⟩, .running, []⟩⟩ := rfl
  rw [show finish = List.replicate 2 .host ++ .host :: finish.drop 3 from rfl, run_append, hbegun]
  show ((step plugin call _ .host).run plugin call _).errand.returned? = _ ∧
    ((step plugin call _ .host).run plugin call _).host = _
  rcases hperform : s.host.perform plugin call with ⟨_ | result, host⟩
  · rw [Service.call_of_crash .plugin plugin call hrunning hperform]
    simp only [step, Errand.serve, hperform]
    exact ⟨rfl, rfl⟩
  · rw [Service.call_of_result .plugin plugin call hrunning hperform]
    simp only [step, Errand.serve, hperform]
    exact ⟨rfl, rfl⟩

end Exchange

end PluginHost
