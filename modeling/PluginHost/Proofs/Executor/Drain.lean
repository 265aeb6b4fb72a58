/-
# The thread left alone

When nobody else hands anything over, the thread comes to rest with an empty mailbox, and the state
is then the one that `Program.drain` computes from the jobs that were waiting (`exists_quiet`).  So
what a `Worker` does in one go is what the thread does step by step (`Worker.stop_eq`).

What the thread will have done when it comes to rest is known at every moment (`settled`), and no
step changes it, while the work that is left shrinks (`burden`).
-/
import PluginHost.Proofs.Executor.Order

namespace PluginHost

namespace Executor

variable {σ : Type} {report : σ → List Leak} {e : Executor σ} {program : Program σ}
  {outer : List (Program σ)}

/-- The programs that wait in the mailbox. -/
def waiting (e : Executor σ) : List (Program σ) := (jobs e.mailbox).map Job.program

/-- The state when the thread has come to rest. -/
def settled (e : Executor σ) : σ :=
  match e.duty with
  | .running program outer =>
    Program.drain (resume e.state (program :: outer)).state
      (e.waiting ++ (resume e.state (program :: outer)).posted)
  | _ => Program.drain e.state e.waiting

/-- The steps of the thread until it comes to rest. -/
def burden (e : Executor σ) : Nat :=
  match e.duty with
  | .running program outer => load (program :: outer) + Program.weights e.waiting
  | _ => Program.weights e.waiting

/-- The thread does its jobs, and nobody has told it to stop. -/
structure Serving (e : Executor σ) : Prop where
  /-- It waits or runs a job. -/
  duty : e.duty = .idle ∨ ∃ program outer, e.duty = .running program outer
  /-- Programs find the state. -/
  available : e.available = true
  /-- There are jobs in the mailbox only. -/
  mailbox : .shutdown ∉ e.mailbox

/-- A step inside a job leads nowhere else, and nearer. -/
lemma Serving.advance (h : Serving e) (hduty : e.duty = .running program outer) :
    Serving (e.advance outer program) ∧ (e.advance outer program).settled = e.settled ∧
      (e.advance outer program).burden < e.burden := by
  have havailable := h.available
  have hmailbox := h.mailbox
  cases program with
  | done =>
    cases outer with
    | nil =>
      refine ⟨⟨.inl rfl, havailable, hmailbox⟩, ?_, ?_⟩
      · simp only [settled, hduty, resume_done]
        simp [resume, Executor.advance, finish, waiting]
      · simp only [burden, hduty, load_cons, Program.weight, Executor.advance, finish, waiting]
        omega
    | cons rest outer =>
      refine ⟨⟨.inr ⟨rest, outer, rfl⟩, havailable, hmailbox⟩, ?_, ?_⟩
      · simp only [settled, hduty, resume_done]
        rfl
      · simp only [burden, hduty, load_cons, Program.weight, Executor.advance, waiting]
        omega
  | change act rest =>
    refine ⟨⟨.inr ⟨rest, outer, rfl⟩, havailable, hmailbox⟩, ?_, ?_⟩
    · simp only [settled, hduty]
      rfl
    · simp only [burden, hduty, load_cons, Program.weight, Executor.advance, waiting]
      omega
  | execute job rest =>
    rw [Executor.advance, enter, if_pos havailable]
    refine ⟨⟨.inr ⟨job, rest :: outer, rfl⟩, havailable, hmailbox⟩, ?_, ?_⟩
    · simp only [settled, hduty, resume_execute]
      rfl
    · simp only [burden, hduty, load_cons, Program.weight, waiting]
      omega
  | query job use rest =>
    rw [Executor.advance, enter, if_pos havailable]
    refine ⟨⟨.inr ⟨job, .change use rest :: outer, rfl⟩, havailable, hmailbox⟩, ?_, ?_⟩
    · simp only [settled, hduty, resume_query]
      rfl
    · simp only [burden, hduty, load_cons, Program.weight, waiting]
      omega
  | post job rest =>
    have hopen : e.duty.isOpen = true := by
      rw [hduty]
      rfl
    rw [Executor.advance, send_of_isOpen hopen]
    refine ⟨⟨.inr ⟨rest, outer, rfl⟩, havailable, by simpa using hmailbox⟩, ?_, ?_⟩
    · simp only [settled, hduty, resume_post]
      simp [waiting, jobs_append, jobs, Program.Ending.after]
    · simp only [burden, hduty, load_cons, Program.weight, waiting, jobs_append, jobs,
        List.map_append, List.map_cons, List.map_nil, Program.weights_append, Program.weights]
      omega
  | crash =>
    refine ⟨⟨.inl rfl, havailable, hmailbox⟩, ?_, ?_⟩
    · simp only [settled, hduty, resume_crash]
      simp [Executor.advance, finish, waiting]
    · simp only [burden, hduty, load_cons, Program.weight, Executor.advance, finish, waiting]
      omega

/-- A step of the thread, while there is something to do. -/
lemma Serving.work (report : σ → List Leak) (h : Serving e)
    (hbusy : ¬ (e.duty = .idle ∧ e.mailbox = [])) :
    Serving (e.work report) ∧ (e.work report).settled = e.settled ∧
      (e.work report).burden < e.burden := by
  obtain hidle | ⟨program, outer, hrunning⟩ := h.duty
  · cases hmailbox : e.mailbox with
    | nil => exact absurd ⟨hidle, hmailbox⟩ hbusy
    | cons item mailbox =>
      have hjobs := h.mailbox
      rw [hmailbox] at hjobs
      cases item with
      | shutdown => exact absurd List.mem_cons_self hjobs
      | run job =>
        rw [work_begins hidle hmailbox h.available]
        refine ⟨⟨.inr ⟨job.program, [], rfl⟩, h.available,
          fun hmem => hjobs (List.mem_cons_of_mem _ hmem)⟩, ?_, ?_⟩
        · simp only [settled, hidle, waiting, hmailbox, jobs, List.map_cons, resume_singleton]
          rw [Program.drain]
        · simp only [burden, hidle, waiting, hmailbox, jobs, List.map_cons, Program.weights, load]
          omega
  · rw [work_advances hrunning]
    exact h.advance hrunning

/-- Left alone the thread comes to rest, in the state to which its jobs lead one after another. -/
theorem exists_quiet (report : σ → List Leak) (h : Serving e) :
    ∃ steps, (e.run report (List.replicate steps .work)).duty = .idle ∧
      (e.run report (List.replicate steps .work)).mailbox = [] ∧
      (e.run report (List.replicate steps .work)).available = true ∧
      (e.run report (List.replicate steps .work)).state = e.settled := by
  induction hburden : e.burden using Nat.strongRecOn generalizing e with
  | ind burden ih =>
    subst hburden
    by_cases hbusy : e.duty = .idle ∧ e.mailbox = []
    · refine ⟨0, hbusy.1, hbusy.2, h.available, ?_⟩
      simp [run, settled, hbusy, waiting, jobs, Program.drain]
    · obtain ⟨hserving, hsettled, hless⟩ := h.work report hbusy
      obtain ⟨steps, hrest⟩ := ih _ hless hserving rfl
      refine ⟨steps + 1, ?_⟩
      rw [List.replicate_succ, run_cons, ← hsettled]
      exact hrest

/-- Jobs that are handed over before the thread does anything wait in their order. -/
lemma run_posts (report : σ → List Leak) (hduty : e.duty = .idle) (queue : List (Program σ)) :
    (e.run report (queue.map fun job => .submit (.post job))).duty = .idle ∧
      (e.run report (queue.map fun job => .submit (.post job))).available = e.available ∧
      (e.run report (queue.map fun job => .submit (.post job))).state = e.state ∧
      (e.run report (queue.map fun job => .submit (.post job))).mailbox =
        e.mailbox ++ (queue.map (Job.mk .outside)).map .run := by
  induction queue generalizing e with
  | nil => exact ⟨hduty, rfl, rfl, (List.append_nil _).symm⟩
  | cons job queue ih =>
    have hsend : (e.step report (.submit (.post job))) =
        { e with
          mailbox := e.mailbox ++ [.run ⟨.outside, job⟩]
          sent := e.sent ++ [.run ⟨.outside, job⟩] } := by
      rw [step, submit, send_of_isOpen (by rw [hduty]; rfl)]
      rfl
    rw [List.map_cons, run_cons, hsend]
    obtain ⟨hidle, havailable, hstate, hmailbox⟩ := @ih
      { e with
        mailbox := e.mailbox ++ [.run ⟨.outside, job⟩]
        sent := e.sent ++ [.run ⟨.outside, job⟩] } hduty
    refine ⟨hidle, havailable, hstate, ?_⟩
    rw [hmailbox]
    simp

/-- A thread at rest that is told to stop reports on the state that is there. -/
lemma run_stop (report : σ → List Leak) (hduty : e.duty = .idle) (hmailbox : e.mailbox = [])
    (havailable : e.available = true) (hholders : e.holders = 0) :
    (e.run report (.shutdown :: List.replicate 3 .work)).duty = .stopped (report e.state) := by
  have hsend : e.step report .shutdown =
      { e with mailbox := [.shutdown], sent := e.sent ++ [.shutdown] } := by
    rw [step, send_of_isOpen (by rw [hduty]; rfl), hmailbox]
    rfl
  have hobeys : (e.step report .shutdown).work report =
      { e with mailbox := [], sent := e.sent ++ [.shutdown], duty := .closing } := by
    rw [hsend]
    exact work_obeys hduty rfl
  have hcloses : ((e.step report .shutdown).work report).work report =
      { e with mailbox := [], sent := e.sent ++ [.shutdown], duty := .draining } := by
    rw [hobeys]
    exact work_closes rfl
  have hreports : (((e.step report .shutdown).work report).work report).work report =
      { e with
        mailbox := []
        sent := e.sent ++ [.shutdown]
        available := false
        duty := .stopped (report e.state) } := by
    rw [hcloses]
    exact work_reports rfl havailable hholders
  exact congrArg Executor.duty hreports

end Executor

/-- What is reported of a desk when the thread has stopped. -/
def Desk.leaks {α : Type} (d : Desk α) : List Leak := d.ledger.close.1

/-- What a worker reports when it stops is what the thread reports that is given the same jobs, is
left alone until it rests, and is told to stop then. -/
theorem Worker.stop_eq {α : Type} (w : Worker α) :
    ∃ steps, ((Executor.new w.toDesk).run Desk.leaks
      ((w.queue.map fun job => .submit (.post job)) ++ List.replicate steps .work
        ++ .shutdown :: List.replicate 3 .work)).duty = .stopped w.stop.1 := by
  have hnew : (Executor.new w.toDesk).duty = .idle := rfl
  obtain ⟨hidle, havailable, hstate, hmailbox⟩ := Executor.run_posts Desk.leaks hnew w.queue
  have htraced : Executor.Traced Desk.leaks w.toDesk ((Executor.new w.toDesk).run Desk.leaks
      (w.queue.map fun job => .submit (.post job))) :=
    (Executor.traced_new w.toDesk).run _
  generalize hposted : (Executor.new w.toDesk).run Desk.leaks
    (w.queue.map fun job => .submit (.post job)) = e at hidle havailable hstate hmailbox htraced
  have hwaiting : e.waiting = w.queue := by
    have hjobs : Executor.jobs e.mailbox = w.queue.map (Executor.Job.mk .outside) := by
      rw [hmailbox]
      exact Executor.jobs_map_run _
    simp [Executor.waiting, hjobs, Function.comp_def]
  have hserving : Executor.Serving e := by
    refine ⟨.inl hidle, havailable, ?_⟩
    rw [hmailbox]
    simp [Executor.new]
  obtain ⟨steps, hrest, hempty, hfound, hsettled⟩ := Executor.exists_quiet Desk.leaks hserving
  refine ⟨steps, ?_⟩
  have hquiet := htraced.run (List.replicate steps .work)
  rw [List.append_assoc, Executor.run_append, hposted, Executor.run_append]
  have hholders : (e.run Desk.leaks (List.replicate steps .work)).holders = 0 := by
    cases hquiet with
    | idle duty between | closing duty between | draining duty between
    | stopped duty between => exact between.holders
    | running duty => exact absurd (hrest.symm.trans duty) (by simp)
  rw [Executor.run_stop Desk.leaks hrest hempty hfound hholders, hsettled, Executor.settled, hidle,
    hwaiting, hstate]
  rfl

end PluginHost
