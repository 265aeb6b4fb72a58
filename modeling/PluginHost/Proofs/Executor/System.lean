/-
# The thread of the host, step by step

An `Executor` is the thread on which the host does its work, with the mailbox through which the
work comes.  Other threads put jobs into the mailbox, and in the end the request to stop.  The
thread takes the jobs out, one after another, and a job is a `Program`: it changes the state, runs
other programs inside itself, hands over further jobs, or crashes.  A crash unwinds all programs
that are under way, and the thread goes on with the next job.  Told to stop, it closes the mailbox,
throws away what is still in it, and takes the state apart, which works when no program holds on
to it; this gives the report.

Every `Event` is one step of one of the parties, and a list of events is one way in which things
can happen.  What was put into the mailbox, what was begun and how it ended is written down beside
the machine and has no influence on it.  What was accepted can be told without that, from the
answers along the run (`accepted`), and is the same (`sent_run`).

The specification is `Program.run`, which runs a program in one go: `course` runs jobs one after
another with it, and `resume` runs what is left of a job, program by program.  A step of the thread
takes a piece off the left-over, and `resume` gives the same as before (`resume_execute` and its
neighbours).
-/
import Mathlib.Tactic.Lemma
import PluginHost.Worker

namespace PluginHost

variable {σ : Type}

namespace Executor

/-- Who handed a job over. -/
inductive Origin where
  /-- Another thread. -/
  | outside
  /-- The job with a number; the jobs are numbered as they are begun, from zero. -/
  | inside (number : Nat)

/-- A job. -/
structure Job (σ : Type) where
  /-- Who handed it over. -/
  origin : Origin
  /-- What it does. -/
  program : Program σ

/-- What is put into the mailbox. -/
inductive Item (σ : Type) where
  /-- To do a job. -/
  | run (job : Job σ)
  /-- To stop. -/
  | shutdown

/-- What the thread is about to do. -/
inductive Duty (σ : Type) where
  /-- To take something out of the mailbox. -/
  | idle
  /-- To go on with a program, and then with what is left of those around it, the innermost one
  in front. -/
  | running (program : Program σ) (outer : List (Program σ))
  /-- To close the mailbox. -/
  | closing
  /-- To throw away what is left in the mailbox, and to report. -/
  | draining
  /-- Nothing any more; it has reported these leaks. -/
  | stopped (leaks : List Leak)

/-- Whether the mailbox is open. -/
def Duty.isOpen : Duty σ → Bool
  | idle | running _ _ | closing => true
  | draining | stopped _ => false

end Executor

/-- The thread of the host. -/
structure Executor (σ : Type) where
  /-- The state of the host. -/
  state : σ
  /-- Whether programs that begin on the thread find the state. -/
  available : Bool
  /-- The number of programs under way that hold on to the state. -/
  holders : Nat
  /-- What the thread has not taken yet, the next one in front. -/
  mailbox : List (Executor.Item σ)
  /-- What the thread is about to do. -/
  duty : Executor.Duty σ
  /-- What was put into the mailbox, the first one in front. -/
  sent : List (Executor.Item σ)
  /-- The jobs that were begun, the first one in front. -/
  begun : List (Executor.Job σ)
  /-- For each job that is over whether it completed, and the state that it left. -/
  ended : List (Bool × σ)

namespace Executor

/-- What another thread asks for. -/
inductive Request (σ : Type) where
  /-- To do a job some time. -/
  | post (job : Program σ)
  /-- To do a job, which other threads can have done only some time. -/
  | execute (job : Program σ)
  /-- To do a job, for the end of which the other thread waits. -/
  | query (job : Program σ)

/-- The job that is asked for. -/
def Request.job : Request σ → Program σ
  | post job | execute job | query job => job

/-- A step of one of the parties. -/
inductive Event (σ : Type) where
  /-- Another thread asks for something. -/
  | submit (request : Request σ)
  /-- Somebody tells the thread to stop. -/
  | shutdown
  /-- The thread goes on. -/
  | work

/-- A thread that has not done anything. -/
def new (init : σ) : Executor σ := ⟨init, true, 0, [], .idle, [], [], []⟩

/-- Puts something into the mailbox, if it is open. -/
def send (e : Executor σ) (item : Item σ) : Except HostError Unit × Executor σ :=
  if e.duty.isOpen then
    (.ok (), { e with mailbox := e.mailbox ++ [item], sent := e.sent ++ [item] })
  else (.error .closed, e)

/-- Hands over what another thread asks for; a query that is accepted goes on to wait. -/
def submit (e : Executor σ) (request : Request σ) : Except HostError Unit × Executor σ :=
  e.send (.run ⟨.outside, request.job⟩)

lemma send_of_isOpen {e : Executor σ} (hopen : e.duty.isOpen = true) (item : Item σ) :
    e.send item =
      (.ok (), { e with mailbox := e.mailbox ++ [item], sent := e.sent ++ [item] }) :=
  if_pos hopen

lemma send_of_not_isOpen {e : Executor σ} (hopen : e.duty.isOpen = false) (item : Item σ) :
    e.send item = (.error .closed, e) :=
  if_neg (by simp [hopen])

/-- The job that is under way is over. -/
def finish (e : Executor σ) (completed : Bool) : Executor σ :=
  { e with duty := .idle, ended := e.ended ++ [(completed, e.state)] }

/-- Begins a program inside others, if it finds the state; else these go on. -/
def enter (e : Executor σ) (job rest : Program σ) (outer : List (Program σ)) : Executor σ :=
  if e.available then { e with holders := e.holders + 1, duty := .running job (rest :: outer) }
  else { e with duty := .running rest outer }

/-- Goes on with a program inside others. -/
def advance (e : Executor σ) (outer : List (Program σ)) : Program σ → Executor σ
  | .done =>
    match outer with
    | [] => { e with holders := e.holders - 1 }.finish true
    | rest :: outer => { e with holders := e.holders - 1, duty := .running rest outer }
  | .change act rest => { e with state := act e.state, duty := .running rest outer }
  | .execute job rest => e.enter job rest outer
  | .query job use rest => e.enter job (.change use rest) outer
  | .post job rest =>
    { (e.send (.run ⟨.inside e.ended.length, job⟩)).2 with duty := .running rest outer }
  | .crash => { e with holders := e.holders - (outer.length + 1) }.finish false

variable (report : σ → List Leak)

/-- The thread goes on. -/
def work (e : Executor σ) : Executor σ :=
  match e.duty with
  | .idle =>
    match e.mailbox with
    | [] => e
    | .run job :: mailbox =>
      if e.available then
        { e with
          mailbox := mailbox
          begun := e.begun ++ [job]
          holders := e.holders + 1
          duty := .running job.program [] }
      else { e with mailbox := mailbox }
    | .shutdown :: mailbox => { e with mailbox := mailbox, duty := .closing }
  | .running program outer => e.advance outer program
  | .closing => { e with duty := .draining }
  | .draining =>
    { e with
      mailbox := []
      available := false
      duty := .stopped (if e.available ∧ e.holders = 0 then report e.state else []) }
  | .stopped _ => e

section Work

variable {report} {e : Executor σ} {job : Job σ} {mailbox : List (Item σ)}

lemma work_waits (hduty : e.duty = .idle) (hmailbox : e.mailbox = []) : e.work report = e := by
  simp [work, hduty, hmailbox]

lemma work_begins (hduty : e.duty = .idle) (hmailbox : e.mailbox = .run job :: mailbox)
    (available : e.available = true) : e.work report =
      { e with
        mailbox := mailbox
        begun := e.begun ++ [job]
        holders := e.holders + 1
        duty := .running job.program [] } := by
  simp [work, hduty, hmailbox, available]

lemma work_obeys (hduty : e.duty = .idle) (hmailbox : e.mailbox = .shutdown :: mailbox) :
    e.work report = { e with mailbox := mailbox, duty := .closing } := by
  simp [work, hduty, hmailbox]

lemma work_advances {program : Program σ} {outer : List (Program σ)}
    (hduty : e.duty = .running program outer) : e.work report = e.advance outer program := by
  simp [work, hduty]

lemma work_closes (hduty : e.duty = .closing) : e.work report = { e with duty := .draining } := by
  simp [work, hduty]

lemma work_reports (hduty : e.duty = .draining) (available : e.available = true)
    (hholders : e.holders = 0) : e.work report =
      { e with mailbox := [], available := false, duty := .stopped (report e.state) } := by
  simp [work, hduty, available, hholders]

lemma work_rests {leaks : List Leak} (hduty : e.duty = .stopped leaks) : e.work report = e := by
  simp [work, hduty]

end Work

/-- One step. -/
def step (e : Executor σ) : Event σ → Executor σ
  | .submit request => (e.submit request).2
  | .shutdown => (e.send .shutdown).2
  | .work => e.work report

/-- Many steps. -/
def run (e : Executor σ) : List (Event σ) → Executor σ := List.foldl (step report) e

lemma run_cons (e : Executor σ) (event : Event σ) (events : List (Event σ)) :
    e.run report (event :: events) = (e.step report event).run report events := rfl

lemma run_append (e : Executor σ) (events more : List (Event σ)) :
    e.run report (events ++ more) = (e.run report events).run report more :=
  List.foldl_append

/-- What a step has put into the mailbox, going by the answer to whoever asked for it: another
thread, somebody who tells the thread to stop, or the job that is under way. -/
def taken (e : Executor σ) : Event σ → List (Item σ)
  | .submit request => if (e.submit request).1.isOk then [.run ⟨.outside, request.job⟩] else []
  | .shutdown => if (e.send .shutdown).1.isOk then [.shutdown] else []
  | .work =>
    match e.duty with
    | .running (.post job _) _ =>
      let item : Item σ := .run ⟨.inside e.ended.length, job⟩
      if (e.send item).1.isOk then [item] else []
    | _ => []

/-- What is accepted in the course of many steps, going by the answers. -/
def accepted (e : Executor σ) : List (Event σ) → List (Item σ)
  | [] => []
  | event :: events => e.taken event ++ accepted (e.step report event) events

section Accepted

variable (e : Executor σ)

lemma sent_send (item : Item σ) :
    (e.send item).2.sent = e.sent ++ if (e.send item).1.isOk then [item] else [] := by
  cases hopen : e.duty.isOpen with
  | true => simp [send_of_isOpen hopen, Except.isOk, Except.toBool]
  | false => simp [send_of_not_isOpen hopen, Except.isOk, Except.toBool]

lemma sent_advance (program : Program σ) (outer : List (Program σ))
    (hduty : e.duty = .running program outer) :
    (e.advance outer program).sent = e.sent ++ e.taken .work := by
  cases program with
  | done => cases outer <;> simp [advance, finish, taken, hduty]
  | change act rest | crash => simp [advance, finish, taken, hduty]
  | execute job rest | query job use rest =>
    simp only [advance, enter, taken, hduty, List.append_nil]
    split <;> rfl
  | post job rest =>
    simp only [taken, hduty]
    exact e.sent_send _

/-- What is written down as put into the mailbox is what was accepted. -/
lemma sent_step (event : Event σ) : (e.step report event).sent = e.sent ++ e.taken event := by
  cases event with
  | submit request => exact e.sent_send _
  | shutdown => exact e.sent_send _
  | work =>
    cases hduty : e.duty with
    | running program outer =>
      rw [step, work_advances hduty]
      exact e.sent_advance program outer hduty
    | idle =>
      simp only [step, work, hduty, taken, List.append_nil]
      split
      · rfl
      · split <;> rfl
      · rfl
    | closing | draining | stopped => simp [step, work, hduty, taken]

lemma sent_run (events : List (Event σ)) :
    (e.run report events).sent = e.sent ++ accepted report e events := by
  induction events generalizing e with
  | nil => exact (List.append_nil _).symm
  | cons event events ih =>
    rw [run_cons, ih, sent_step, accepted, List.append_assoc]

end Accepted

section Jobs

variable (items : List (Item σ)) (job : Job σ)

/-- The jobs that were put into the mailbox. -/
def jobs : List (Item σ) → List (Job σ)
  | [] => []
  | .run job :: items => job :: jobs items
  | .shutdown :: items => jobs items

/-- The jobs that were put into the mailbox before the request to stop. -/
def timely : List (Item σ) → List (Job σ)
  | .run job :: items => job :: timely items
  | _ => []

/-- What the job with a number handed over. -/
def postsOf (number : Nat) : List (Item σ) → List (Program σ)
  | [] => []
  | .run ⟨.inside n, program⟩ :: items =>
    if n = number then program :: postsOf number items else postsOf number items
  | _ :: items => postsOf number items

lemma jobs_append (items' : List (Item σ)) :
    jobs (items ++ items') = jobs items ++ jobs items' := by
  induction items with
  | nil => rfl
  | cons item items ih => cases item <;> simp [jobs, ih]

lemma jobs_map_run (begun : List (Job σ)) : jobs (begun.map Item.run) = begun := by
  induction begun with
  | nil => rfl
  | cons job begun ih => simp [jobs, ih]

lemma timely_map_run (begun : List (Job σ)) :
    timely (begun.map Item.run ++ items) = begun ++ timely items := by
  induction begun with
  | nil => rfl
  | cons job begun ih => simp [timely, ih]

lemma postsOf_append (number : Nat) (items' : List (Item σ)) :
    postsOf number (items ++ items') = postsOf number items ++ postsOf number items' := by
  induction items with
  | nil => rfl
  | cons item items ih =>
    obtain ⟨⟨_ | n, program⟩⟩ | _ := item
    · exact ih
    · by_cases hn : n = number <;> simp [postsOf, hn, ih]
    · exact ih

end Jobs

/-- Runs jobs one after another, each of them in the state that the one before it left. -/
def course (init : σ) : List (Job σ) → List (Program.Ending σ)
  | [] => []
  | job :: jobs => job.program.run init :: course (job.program.run init).state jobs

/-- The state that jobs leave when they are run one after another. -/
def outcome (init : σ) : List (Job σ) → σ
  | [] => init
  | job :: jobs => outcome (job.program.run init).state jobs

@[simp] lemma length_course (init : σ) (jobs : List (Job σ)) :
    (course init jobs).length = jobs.length := by
  induction jobs generalizing init with
  | nil => rfl
  | cons job jobs ih => simp [course, ih]

lemma course_concat (init : σ) (jobs : List (Job σ)) (job : Job σ) :
    course init (jobs ++ [job]) = course init jobs ++ [job.program.run (outcome init jobs)] := by
  induction jobs generalizing init with
  | nil => rfl
  | cons job' jobs ih => simp [course, outcome, ih]

lemma outcome_concat (init : σ) (jobs : List (Job σ)) (job : Job σ) :
    outcome init (jobs ++ [job]) = (job.program.run (outcome init jobs)).state := by
  induction jobs generalizing init with
  | nil => rfl
  | cons job' jobs ih => exact ih _

/-- Runs programs one after another until one of them crashes. -/
def resume (state : σ) : List (Program σ) → Program.Ending σ
  | [] => ⟨true, state, []⟩
  | program :: outer => (program.run state).andThen fun state => resume state outer

section Resume

open Program

variable (state : σ) (rest : Program σ) (outer : List (Program σ))

lemma andThen_assoc (ending : Program.Ending σ) (next next' : σ → Program.Ending σ) :
    (ending.andThen next).andThen next' = ending.andThen fun s => (next s).andThen next' := by
  unfold Program.Ending.andThen
  by_cases hfirst : ending.completed
  · by_cases hsecond : (next ending.state).completed
    · simp [hfirst, hsecond, List.append_assoc]
    · simp [hfirst, hsecond]
  · simp [hfirst]

lemma after_andThen (ending : Program.Ending σ) (job : Program σ) (next : σ → Program.Ending σ) :
    (ending.after job).andThen next = (ending.andThen next).after job := by
  unfold Program.Ending.andThen Program.Ending.after
  by_cases hcompleted : ending.completed <;> simp [hcompleted]

lemma resume_done : resume state (.done :: outer) = resume state outer := by
  simp [resume, Program.run, Program.Ending.andThen]

lemma resume_execute (job : Program σ) :
    resume state (.execute job rest :: outer) = resume state (job :: rest :: outer) := by
  simp only [resume, Program.run, andThen_assoc]

lemma resume_query (job : Program σ) (use : σ → σ) :
    resume state (.query job use rest :: outer) =
      resume state (job :: .change use rest :: outer) := by
  simp only [resume, Program.run, andThen_assoc]

lemma resume_post (job : Program σ) :
    resume state (.post job rest :: outer) = (resume state (rest :: outer)).after job := by
  simp only [resume, Program.run, after_andThen]

lemma resume_crash : resume state (.crash :: outer) = ⟨false, state, []⟩ := by
  simp [resume, Program.run, Program.Ending.andThen]

lemma resume_singleton : resume state [rest] = rest.run state := by
  cases hrun : rest.run state with
  | mk completed state posted => cases completed <;> simp [resume, Program.Ending.andThen, hrun]

end Resume

end Executor
end PluginHost
