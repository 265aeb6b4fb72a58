/-
# Programs inside programs

A program that the thread has begun runs to its end, or to the crash, before the thread does
anything else, whatever the other threads do meanwhile (`exists_runsThrough`).  The others only put
something into the mailbox, which the thread does not look at while it is inside a job; so what
counts of an executor is its state, its duty and the jobs that were begun (`Alike`).
-/
import PluginHost.Proofs.Executor.System

namespace PluginHost.Executor

variable {σ : Type} {report : σ → List Leak}

/-- Whether this is a step of the thread. -/
def Event.isWork : Event σ → Bool
  | .work => true
  | .submit _ | .shutdown => false

/-- Two executors differ in their mailboxes at most, and in what was written down about them. -/
structure Alike (e e' : Executor σ) : Prop where
  /-- The state is the same. -/
  state : e.state = e'.state
  /-- It is found by both or by neither. -/
  available : e.available = e'.available
  /-- The threads are about to do the same. -/
  duty : e.duty = e'.duty
  /-- The same jobs were begun. -/
  begun : e.begun = e'.begun

variable {e e' e'' : Executor σ} {program : Program σ} {outer : List (Program σ)}

lemma alike_refl (e : Executor σ) : Alike e e := ⟨rfl, rfl, rfl, rfl⟩

lemma Alike.trans (h : Alike e e') (h' : Alike e' e'') : Alike e e'' :=
  ⟨h.state.trans h'.state, h.available.trans h'.available, h.duty.trans h'.duty,
    h.begun.trans h'.begun⟩

lemma alike_send (e : Executor σ) (item : Item σ) : Alike (e.send item).2 e := by
  unfold send
  split <;> exact ⟨rfl, rfl, rfl, rfl⟩

/-- What is put into the mailbox makes no difference inside a job. -/
lemma Alike.advance (h : Alike e e') :
    Alike (e.advance outer program) (e'.advance outer program) := by
  obtain ⟨hstate, havailable, -, hbegun⟩ := h
  cases program with
  | done => cases outer <;> exact ⟨hstate, havailable, rfl, hbegun⟩
  | change act rest => exact ⟨congrArg act hstate, havailable, rfl, hbegun⟩
  | execute job rest | query job use rest =>
    rw [Executor.advance, Executor.advance, enter, enter]
    by_cases hfound : e'.available = true
    · rw [if_pos (havailable.trans hfound), if_pos hfound]
      exact ⟨hstate, havailable, rfl, hbegun⟩
    · rw [if_neg (havailable ▸ hfound), if_neg hfound]
      exact ⟨hstate, havailable, rfl, hbegun⟩
  | post job rest =>
    have hsend := alike_send e (.run ⟨.inside e.ended.length, job⟩)
    have hsend' := alike_send e' (.run ⟨.inside e'.ended.length, job⟩)
    exact ⟨hsend.state.trans (hstate.trans hsend'.state.symm),
      hsend.available.trans (havailable.trans hsend'.available.symm), rfl,
      hsend.begun.trans (hbegun.trans hsend'.begun.symm)⟩
  | crash => exact ⟨hstate, havailable, rfl, hbegun⟩

/-- A step of somebody else. -/
lemma alike_step {event : Event σ} (h : event.isWork = false) :
    Alike (e.step report event) e := by
  cases event with
  | submit request => exact alike_send e _
  | shutdown => exact alike_send e _
  | work => exact absurd h (by simp [Event.isWork])

lemma alike_run {events : List (Event σ)} (h : events.countP Event.isWork = 0) :
    Alike (e.run report events) e := by
  induction events generalizing e with
  | nil => exact alike_refl e
  | cons event events ih =>
    cases hwork : event.isWork with
    | false =>
      rw [List.countP_cons_of_neg (by simp [hwork])] at h
      exact (ih h).trans (alike_step hwork)
    | true =>
      rw [List.countP_cons_of_pos hwork] at h
      omega

/-- One step of the thread inside a job, among steps of the others. -/
lemma alike_advance (hduty : e.duty = .running program outer) {events : List (Event σ)}
    (h : events.countP Event.isWork = 1) :
    Alike (e.run report events) (e.advance outer program) := by
  induction events generalizing e with
  | nil => exact absurd h (by simp)
  | cons event events ih =>
    cases hwork : event.isWork with
    | false =>
      rw [List.countP_cons_of_neg (by simp [hwork])] at h
      have hstep : Alike (e.step report event) e := alike_step hwork
      exact (ih (hstep.duty.trans hduty) h).trans hstep.advance
    | true =>
      rw [List.countP_cons_of_pos hwork] at h
      cases event with
      | submit request | shutdown => exact absurd hwork (by simp [Event.isWork])
      | work =>
        rw [run_cons, step, work_advances hduty]
        exact alike_run (by omega)

lemma exists_split {events : List (Event σ)} {m n : Nat}
    (h : events.countP Event.isWork = m + n) :
    ∃ first second, events = first ++ second ∧ first.countP Event.isWork = m ∧
      second.countP Event.isWork = n := by
  induction events generalizing m with
  | nil =>
    rw [List.countP_nil] at h
    exact ⟨[], [], rfl, by simp; omega, by simp; omega⟩
  | cons event events ih =>
    cases m with
    | zero => exact ⟨[], event :: events, rfl, rfl, by omega⟩
    | succ m =>
      cases hwork : event.isWork with
      | false =>
        rw [List.countP_cons_of_neg (by simp [hwork])] at h
        obtain ⟨first, second, rfl, hfirst, hsecond⟩ := ih h
        refine ⟨event :: first, second, rfl, ?_, hsecond⟩
        rw [List.countP_cons_of_neg (by simp [hwork]), hfirst]
      | true =>
        rw [List.countP_cons_of_pos hwork] at h
        obtain ⟨first, second, rfl, hfirst, hsecond⟩ := @ih m (by omega)
        refine ⟨event :: first, second, rfl, ?_, hsecond⟩
        rw [List.countP_cons_of_pos hwork, hfirst]

/-- What the thread is about to do when a program inside others is over. -/
def leave (completed : Bool) (outer : List (Program σ)) : Duty σ :=
  if completed then
    match outer with
    | [] => .idle
    | rest :: outer => .running rest outer
  else .idle

/-- After so many steps of the thread, and whatever steps of others, the thread has left a program
that it is about to run now, and the program has run to its end, or to a crash. -/
def RunsThrough (report : σ → List Leak) (program : Program σ) (state : σ) (steps : Nat) : Prop :=
  ∀ (e : Executor σ) (outer : List (Program σ)) (events : List (Event σ)),
    e.duty = .running program outer → e.available = true → e.state = state →
    events.countP Event.isWork = steps →
    Alike (e.run report events)
      { e with
        state := (program.run state).state
        duty := leave (program.run state).completed outer }

/-- It is enough that the thread is like one that is about to run the program. -/
lemma RunsThrough.alike {state : σ} {steps : Nat} (h : RunsThrough report program state steps)
    (halike : Alike e e') (hduty : e'.duty = .running program outer)
    (havailable : e'.available = true) (hstate : e'.state = state) {events : List (Event σ)}
    (hcount : events.countP Event.isWork = steps) :
    Alike (e.run report events)
      { e' with
        state := (program.run state).state
        duty := leave (program.run state).completed outer } := by
  have hlater := h e outer events (halike.duty.trans hduty) (halike.available.trans havailable)
    (halike.state.trans hstate) hcount
  exact ⟨hlater.state, hlater.available.trans halike.available, hlater.duty,
    hlater.begun.trans halike.begun⟩

/-- The first step of a program leads to the rest of it. -/
lemma runsThrough_of_step {rest : Program σ} {state state' : σ} {steps : Nat}
    (hadvance : ∀ (e : Executor σ) (outer : List (Program σ)), e.available = true →
      e.state = state →
      Alike (e.advance outer program) { e with state := state', duty := .running rest outer })
    (hrest : RunsThrough report rest state' steps)
    (hstate : (program.run state).state = (rest.run state').state)
    (hcompleted : (program.run state).completed = (rest.run state').completed) :
    RunsThrough report program state (1 + steps) := by
  intro e outer events hduty havailable he hcount
  obtain ⟨first, second, rfl, hfirst, hsecond⟩ := exists_split hcount
  have halike : Alike (e.run report first)
      { e with state := state', duty := .running rest outer } :=
    (alike_advance hduty hfirst).trans (hadvance e outer havailable he)
  rw [run_append, hstate, hcompleted]
  exact hrest.alike halike rfl havailable rfl hsecond

/-- A program that changes the state. -/
lemma runsThrough_change {act : σ → σ} {rest : Program σ} {state : σ} {steps : Nat}
    (hrest : RunsThrough report rest (act state) steps) :
    RunsThrough report (.change act rest) state (1 + steps) := by
  refine runsThrough_of_step (fun e outer _ he => ?_) hrest rfl rfl
  subst he
  exact ⟨rfl, rfl, rfl, rfl⟩

/-- A program that runs another one, `job`, inside itself, and then goes on with `rest`. -/
def Enters (program job rest : Program σ) : Prop :=
  ∀ (e : Executor σ) (outer : List (Program σ)), e.available = true →
    Alike (e.advance outer program) { e with duty := .running job (rest :: outer) }

lemma enters_execute (job rest : Program σ) : Enters (.execute job rest) job rest := by
  intro e outer havailable
  rw [advance, enter, if_pos havailable]
  exact ⟨rfl, rfl, rfl, rfl⟩

lemma enters_query (job : Program σ) (use : σ → σ) (rest : Program σ) :
    Enters (.query job use rest) job (.change use rest) := by
  intro e outer havailable
  rw [advance, enter, if_pos havailable]
  exact ⟨rfl, rfl, rfl, rfl⟩

/-- The program inside has its steps first, on the state that is there, and leaves what it leaves
when it stands alone. -/
lemma Enters.alike {job rest : Program σ} {steps : Nat} (h : Enters program job rest)
    (hjob : RunsThrough report job e.state steps) (hduty : e.duty = .running program outer)
    (havailable : e.available = true) {events : List (Event σ)}
    (hcount : events.countP Event.isWork = 1 + steps) :
    Alike (e.run report events)
      { e with
        state := (job.run e.state).state
        duty := leave (job.run e.state).completed (rest :: outer) } := by
  obtain ⟨first, second, rfl, hfirst, hsecond⟩ := exists_split hcount
  have halike : Alike (e.run report first) { e with duty := .running job (rest :: outer) } :=
    (alike_advance hduty hfirst).trans (h e outer havailable)
  rw [run_append]
  exact hjob.alike halike rfl havailable rfl hsecond

lemma Enters.runsThrough {job rest : Program σ} {state : σ} {steps steps' : Nat}
    (h : Enters program job rest)
    (hrun : program.run state = (job.run state).andThen fun state => rest.run state)
    (hjob : RunsThrough report job state steps)
    (hrest : RunsThrough report rest (job.run state).state steps') :
    ∃ steps, RunsThrough report program state steps := by
  cases hcompleted : (job.run state).completed with
  | true =>
    refine ⟨1 + steps + steps', fun e outer events hduty havailable he hcount => ?_⟩
    obtain ⟨first, second, rfl, hfirst, hsecond⟩ := exists_split hcount
    subst he
    have halike := h.alike hjob hduty havailable hfirst
    rw [hcompleted] at halike
    have hending :
        (program.run e.state).state = (rest.run (job.run e.state).state).state ∧
          (program.run e.state).completed = (rest.run (job.run e.state).state).completed := by
      rw [hrun, Program.Ending.andThen, if_pos hcompleted]
      exact ⟨rfl, rfl⟩
    rw [run_append, hending.1, hending.2]
    exact hrest.alike halike rfl havailable rfl hsecond
  | false =>
    refine ⟨1 + steps, fun e outer events hduty havailable he hcount => ?_⟩
    subst he
    have halike := h.alike hjob hduty havailable hcount
    have hending : program.run e.state = job.run e.state := by
      rw [hrun, Program.Ending.andThen, if_neg (by simp [hcompleted])]
    rw [hending]
    rw [hcompleted] at halike ⊢
    exact halike

/-- Every program runs through, from every state. -/
theorem exists_runsThrough (report : σ → List Leak) (program : Program σ) (state : σ) :
    ∃ steps, RunsThrough report program state steps := by
  induction program generalizing state with
  | done =>
    refine ⟨1, fun e outer events hduty _ he hcount => (alike_advance hduty hcount).trans ?_⟩
    subst he
    cases outer <;> exact ⟨rfl, rfl, rfl, rfl⟩
  | change act rest ih =>
    obtain ⟨steps, hrest⟩ := ih (act state)
    exact ⟨_, runsThrough_change hrest⟩
  | execute job rest ihj ihr =>
    obtain ⟨steps, hjob⟩ := ihj state
    obtain ⟨steps', hrest⟩ := ihr (job.run state).state
    exact (enters_execute job rest).runsThrough rfl hjob hrest
  | query job use rest ihj ihr =>
    obtain ⟨steps, hjob⟩ := ihj state
    obtain ⟨steps', hrest⟩ := ihr (use (job.run state).state)
    exact (enters_query job use rest).runsThrough rfl hjob (runsThrough_change hrest)
  | post job rest _ ih =>
    obtain ⟨steps, hrest⟩ := ih state
    refine ⟨_, runsThrough_of_step (fun e outer _ he => ?_) hrest rfl rfl⟩
    have hsend := alike_send e (.run ⟨.inside e.ended.length, job⟩)
    exact ⟨hsend.state.trans he, hsend.available, rfl, hsend.begun⟩
  | crash =>
    refine ⟨1, fun e outer events hduty _ he hcount => (alike_advance hduty hcount).trans ?_⟩
    subst he
    exact ⟨rfl, rfl, rfl, rfl⟩

/-- The thread is about to run `job` inside others: after so many steps of it, and whatever steps
of others, the job has run to its end, or to the crash, and the thread goes on with `rest`, or with
none of the programs around it.  No other job was begun. -/
def RunsInside (report : σ → List Leak) (e : Executor σ) (job rest : Program σ)
    (outer : List (Program σ)) : Prop :=
  ∃ steps, ∀ events : List (Event σ), events.countP Event.isWork = steps →
    (e.run report events).begun = e.begun ∧
      (e.run report events).state = (job.run e.state).state ∧
      (e.run report events).duty =
        if (job.run e.state).completed then .running rest outer else .idle

lemma Enters.runsInside {job rest : Program σ} (h : Enters program job rest)
    (hduty : e.duty = .running program outer) (havailable : e.available = true) :
    RunsInside report e job rest outer := by
  obtain ⟨steps, hjob⟩ := exists_runsThrough report job e.state
  refine ⟨1 + steps, fun events hcount => ?_⟩
  have halike := h.alike hjob hduty havailable hcount
  exact ⟨halike.begun, halike.state, halike.duty⟩

end PluginHost.Executor
