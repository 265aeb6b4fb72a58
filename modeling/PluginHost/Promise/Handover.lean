/-
# Handing over a result

The caller of a plugin call waits for the promise, but not longer than a time bound.  When the
bound has passed without a result, it cancels the promise, looks once more, and stores a
timeout if there is still nothing.  Meanwhile others store results and cancel, and an
operation may hold the cancel flag, so that the caller cannot cancel while it runs.

A `Handover` is the state of such a wait and a `Move` one step of one of the parties; a list
of moves is an interleaving.  `Promise.await` is the wait in which nobody else moves.
-/
import PluginHost.Promise

namespace PluginHost

/-- How far the caller has come. -/
inductive Waiter (α : Type) where
  /-- It waits for a result. -/
  | waiting
  /-- The bound has passed without a result; it is about to cancel. -/
  | expired
  /-- It has cancelled, and is about to look again. -/
  | rechecking
  /-- There was no result then either; it is about to store a timeout. -/
  | abandoning
  /-- It is about to take the result. -/
  | taking
  /-- It has returned. -/
  | returned (result : CallResult α)

/-- The state of a wait. -/
structure Handover (α : Type) where
  /-- The promise waited for. -/
  promise : Promise α
  /-- Whether an operation holds the cancel flag. -/
  held : Bool
  /-- How far the caller has come. -/
  waiter : Waiter α

/-- A step of one of the parties. -/
inductive Move (α : Type) where
  /-- The caller goes on, as far as it is allowed to. -/
  | proceed
  /-- The time bound passes. -/
  | expire
  /-- An operation stores a result. -/
  | store (result : CallResult α)
  /-- An operation takes hold of the cancel flag. -/
  | hold
  /-- The operation lets go of the cancel flag. -/
  | release
  /-- Somebody but the caller cancels. -/
  | cancel

namespace Handover

variable {α : Type}

/-- A wait that begins on a promise. -/
def start (promise : Promise α) : Handover α := ⟨promise, false, .waiting⟩

/-- The caller goes on. -/
def proceed (h : Handover α) : Handover α :=
  match h.waiter with
  | .waiting => if h.promise.isReady then { h with waiter := .taking } else h
  | .expired =>
    if h.held then h else { h with promise := h.promise.cancel, waiter := .rechecking }
  | .rechecking =>
    { h with waiter := if h.promise.isReady then .taking else .abandoning }
  | .abandoning =>
    { h with promise := h.promise.fulfil (.error .apiRequestTimeout), waiter := .taking }
  | .taking =>
    match h.promise.take with
    | (some result, promise) => { h with promise := promise, waiter := .returned result }
    | (none, _) => h
  | .returned _ => h

/-- The time bound passes: a caller that still waits without a result stops waiting. -/
def expire (h : Handover α) : Handover α :=
  match h.waiter with
  | .waiting => { h with waiter := if h.promise.isReady then .taking else .expired }
  | _ => h

/-- One step.  A step that has to wait for another party leaves the state as it is. -/
def step (h : Handover α) : Move α → Handover α
  | .proceed => h.proceed
  | .expire => h.expire
  | .store result => { h with promise := h.promise.fulfil result }
  | .hold => { h with held := true }
  | .release => { h with held := false }
  | .cancel => if h.held then h else { h with promise := h.promise.cancel }

/-- An interleaving. -/
def run (h : Handover α) (moves : List (Move α)) : Handover α := moves.foldl step h

/-- What the caller has returned. -/
def result? (h : Handover α) : Option (CallResult α) :=
  match h.waiter with
  | .returned result => some result
  | _ => none

/-- The moves of a caller whose bound passes while nobody else moves. -/
def alone : List (Move α) := [.expire, .proceed, .proceed, .proceed, .proceed]

end Handover

/-- Waits for a promise on which nobody else acts any more: what is there is taken, and
otherwise the promise is cancelled and the wait times out. -/
def Promise.await {α : Type} (p : Promise α) : CallResult α × Promise α :=
  match p.slot with
  | some result => (result, { p with slot := none })
  | none => (.error .apiRequestTimeout, p.cancel)

theorem Handover.run_alone {α : Type} (p : Promise α) :
    ((Handover.start p).run Handover.alone).result? = some p.await.1 ∧
      ((Handover.start p).run Handover.alone).promise = p.await.2 := by
  obtain ⟨cancelled, _ | result⟩ := p
  · exact ⟨rfl, rfl⟩
  · exact ⟨rfl, rfl⟩

end PluginHost
