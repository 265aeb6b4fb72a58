/-
# Programs of the host's thread

A piece of the host's work changes the state of the host, step after step.  While it runs it can
run other pieces inside itself, and hand over further ones, which run when those in front of them
are done.  A crash ends the piece of work in which it happens, with all pieces that run inside it
and around it, but neither undoes what was done before nor keeps the next piece from running.
-/
namespace PluginHost

/-- A piece of work; `σ` is the type of the state on which it works. -/
inductive Program (σ : Type) where
  /-- Nothing more. -/
  | done
  /-- Change the state. -/
  | change (act : σ → σ) (rest : Program σ)
  /-- Run a program here. -/
  | execute (job rest : Program σ)
  /-- Run a program here, and make use of the state that it leaves. -/
  | query (job : Program σ) (use : σ → σ) (rest : Program σ)
  /-- Hand over a program. -/
  | post (job rest : Program σ)
  /-- Crash. -/
  | crash

/-- What has become of a program that was run. -/
structure Program.Ending (σ : Type) where
  /-- Whether it came to its end without a crash. -/
  completed : Bool
  /-- The state that it left. -/
  state : σ
  /-- The programs that it handed over, the first one in front. -/
  posted : List (Program σ)

variable {σ : Type}

namespace Program

namespace Ending

/-- What comes next, unless there was a crash. -/
def andThen (e : Ending σ) (next : σ → Ending σ) : Ending σ :=
  if e.completed then
    let e' := next e.state
    { e' with posted := e.posted ++ e'.posted }
  else e

/-- A program was handed over first. -/
def after (e : Ending σ) (job : Program σ) : Ending σ := { e with posted := job :: e.posted }

end Ending

/-- Runs a program. -/
def run (state : σ) : Program σ → Ending σ
  | .done => ⟨true, state, []⟩
  | .change act rest => rest.run (act state)
  | .execute job rest => (job.run state).andThen fun state => rest.run state
  | .query job use rest => (job.run state).andThen fun state => rest.run (use state)
  | .post job rest => (rest.run state).after job
  | .crash => ⟨false, state, []⟩

/-- The number of steps in which a thread runs a program, with those of the programs that this
runs or hands over. -/
def weight : Program σ → Nat
  | .done => 1
  | .change _ rest => rest.weight + 1
  | .execute job rest => job.weight + rest.weight + 1
  | .query job _ rest => job.weight + rest.weight + 2
  | .post job rest => job.weight + rest.weight + 2
  | .crash => 1

/-- The number of steps in which a thread takes up and runs some programs. -/
def weights : List (Program σ) → Nat
  | [] => 0
  | job :: jobs => job.weight + 1 + weights jobs

theorem weights_append (jobs jobs' : List (Program σ)) :
    weights (jobs ++ jobs') = weights jobs + weights jobs' := by
  induction jobs with
  | nil => simp [weights]
  | cons job jobs ih => simp [weights, ih, Nat.add_assoc]

theorem weights_andThen (e : Ending σ) (next : σ → Ending σ) :
    weights (e.andThen next).posted ≤ weights e.posted + weights (next e.state).posted := by
  unfold Ending.andThen
  split
  · simp [weights_append]
  · omega

/-- A program hands over less than it is itself. -/
theorem weights_posted (state : σ) (p : Program σ) :
    weights (p.run state).posted < p.weight := by
  induction p generalizing state with
  | done | crash => simp [run, weights, weight]
  | change act rest ih => exact Nat.lt_succ_of_lt (ih (act state))
  | execute job rest ihj ihr =>
    have hj := ihj state
    have hr := ihr (job.run state).state
    have hboth := weights_andThen (job.run state) fun state => rest.run state
    simp only [run, weight]
    omega
  | query job use rest ihj ihr =>
    have hj := ihj state
    have hr := ihr (use (job.run state).state)
    have hboth := weights_andThen (job.run state) fun state => rest.run (use state)
    simp only [run, weight]
    omega
  | post job rest _ ih =>
    have := ih state
    simp only [run, Ending.after, weights, weight]
    omega

/-- Runs programs one after another, and behind them those that they hand over, until none is
left. -/
def drain (state : σ) : List (Program σ) → σ
  | [] => state
  | job :: queue => drain (job.run state).state (queue ++ (job.run state).posted)
termination_by queue => weights queue
decreasing_by
  have := weights_posted state job
  simp only [weights_append, weights]
  omega

end Program
end PluginHost
