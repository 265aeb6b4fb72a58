/-
# Calls from inside the host's work

A job on the host's thread can make calls like any plugin, and jobs can run inside jobs.  Such a
call is not put into the mailbox, where it would wait for the very job that makes it.  The thread
performs it on the spot: it takes hold of the cancel flag of a promise that is new, looks at it,
performs the call, stores the result and lets go of the flag; and only then does it begin to wait
for the result.

A `Bench` is the host with its thread and its mailbox.  Every `Event` is one step of one of the
parties: the thread goes on, the time bound of a wait passes, or somebody puts a job into the
mailbox.  The steps of a call and of its wait are those of an `Errand`.

While a call is performed it makes use of what is lent and of the settings, each time for one
operation only (`Host.needs`).  A job that holds on to one of them while others run inside it is in
the way of such a call: the settings are waited for, and this wait never ends (`run_of_held`); what
is lent makes the call crash.
-/
import PluginHost.Proofs.Call.Account
import PluginHost.Proofs.Call.Errand

namespace PluginHost

/-! ## Calls, by the way they are made -/

namespace CallWay

/-- The call that is performed: the one that is asked for, or the question whether the caller is
accepted. -/
def performed (way : CallWay) : Call := way.call?.getD .verifyCaller

/-- What is made of the result. -/
def conclude (way : CallWay) (result : Option (CallResult Reply)) (service : Service) : Entered :=
  match way.call? with
  | none => ApiTable.concludeMissing result service
  | some _ => ApiTable.conclude result service

end CallWay

/-- What a caller sees: the status, and what was given. -/
def Entered.answer (e : Entered) : Int32 × Option Reply := (e.status, e.reply)

lemma Service.serve_eq_conclude (s : Service) (r : PluginRequest) :
    s.serve r = r.way.conclude (s.call r.thread r.plugin r.way.performed).1
      (s.call r.thread r.plugin r.way.performed).2 := by
  obtain ⟨thread, plugin, way⟩ := r
  cases way with
  | entry table call targets =>
    simp only [Service.serve, ApiTable.enter, CallWay.conclude, CallWay.performed, CallWay.call?,
      Bool.not_true, Bool.false_eq_true, if_false]
    cases call.complete? table targets <;> rfl
  | method call => rfl

/-! ## The thread -/

/-- What a job can hold on to while others run inside it. -/
inductive Guard where
  /-- What is lent. -/
  | ledger
  /-- The settings, locked so that nobody else gets at them. -/
  | settings
deriving DecidableEq, Repr

/-- A job on the host's thread. -/
inductive Chore where
  /-- Nothing more. -/
  | done
  /-- Change the host. -/
  | change (act : Host → Host) (rest : Chore)
  /-- Run a job here, and hold on to something meanwhile, or to nothing. -/
  | execute (guard : Option Guard) (job rest : Chore)
  /-- Put a job into the mailbox. -/
  | post (job rest : Chore)
  /-- Make a call, and go on with its status and with what was given. -/
  | call (plugin : PluginId) (way : CallWay) (next : Int32 × Option Reply → Chore)
  /-- Crash. -/
  | crash

namespace Host

/-- Whether a call of an accepted plugin looks at the settings or changes them. -/
def usesSettings (h : Host) : Call → Bool
  | .getSetting _ _ | .setSetting _ _ | .requestMicrophoneActivationOverwrite _ => true
  | .getLocalUserTransmissionMode | .isLocalUserMuted | .isLocalUserDeafened => true
  | .requestLocalUserTransmissionMode raw =>
    (TransmissionMode.ofRaw? raw).isSome && h.client.isSome
  | .requestLocalUserMute _ | .requestLocalUserDeaf _ => h.client.isSome
  | _ => false

/-- Whether a call of an accepted plugin lends something or frees it. -/
def usesLedger (h : Host) : Call → Bool
  | .freeMemory _ => true
  | .onSession connection call =>
    (h.synchronized connection).isOk && (h.reading (.onSession connection call)).isSome
  | call => (h.reading call).isSome

/-- What a call makes use of besides those parts of the host that are free at all times: one after
the other, and each for one operation only. -/
def needs (h : Host) (plugin : PluginId) (call : Call) : List Guard :=
  if isOpen call || (h.verifyPlugin plugin).isOk then
    (if h.usesSettings call then [.settings] else []) ++
      (if h.usesLedger call then [.ledger] else [])
  else []

/-- A call makes use of two things at most. -/
lemma length_needs (h : Host) (plugin : PluginId) (call : Call) :
    (h.needs plugin call).length ≤ 2 := by
  unfold needs
  split_ifs <;> decide

end Host

namespace Bench

/-- What is left of a job while another one runs inside it. -/
structure Frame where
  /-- What comes next. -/
  rest : Chore
  /-- What the job holds on to. -/
  guard : Option Guard

/-- A call that is under way. -/
structure Visit where
  /-- The plugin for which it is made. -/
  plugin : PluginId
  /-- The way in which it is made. -/
  way : CallWay
  /-- How the job goes on. -/
  next : Int32 × Option Reply → Chore
  /-- How far the call has come. -/
  errand : Errand
  /-- What it will yet make use of. -/
  needs : List Guard

/-- What the thread is about to do. -/
inductive Duty where
  /-- To take a job out of the mailbox. -/
  | idle
  /-- To go on with a job, and then with what is left of those around it, the innermost one in
  front. -/
  | running (chore : Chore) (outer : List Frame)
  /-- To go on with a call that a job has made. -/
  | calling (visit : Visit) (outer : List Frame)

/-- A step of one of the parties. -/
inductive Event where
  /-- The thread goes on. -/
  | work
  /-- The time bound of the wait passes. -/
  | clock
  /-- Somebody puts a job into the mailbox. -/
  | submit (job : Chore)

end Bench

/-- The host, with its thread and its mailbox. -/
structure Bench where
  /-- The host. -/
  host : Host
  /-- The jobs that the thread has not taken yet, the next one in front. -/
  mailbox : List Chore
  /-- What the thread is about to do. -/
  duty : Bench.Duty

namespace Bench

/-- Whether a job under way holds on to something. -/
def isHeld (outer : List Frame) (guard : Guard) : Bool :=
  outer.any fun frame => frame.guard = some guard

/-- The thread needs something: if it is free, it goes on with `free`.  It waits for the settings as
long as they are locked; a ledger that is made use of makes it `crash`. -/
def seize (b : Bench) (outer : List Frame) (guard : Guard) (free crash : Duty) : Bench :=
  if isHeld outer guard then
    match guard with
    | .settings => b
    | .ledger => { b with duty := crash }
  else { b with duty := free }

/-- What a crash of a call leads to.  None gets through an entry of a table, where it ends as an
internal error; without one, it ends the job that made the call, with all those around it. -/
def aborted (way : CallWay) (next : Int32 × Option Reply → Chore) (outer : List Frame) : Duty :=
  match way with
  | .entry _ _ _ => .running (next (ErrorCode.internalError.raw, none)) outer
  | .method _ => .idle

/-- The thread goes on with a job. -/
def advance (b : Bench) (outer : List Frame) : Chore → Bench
  | .done =>
    match outer with
    | [] => { b with duty := .idle }
    | frame :: outer => { b with duty := .running frame.rest outer }
  | .change act rest => { b with host := act b.host, duty := .running rest outer }
  | .execute none job rest => { b with duty := .running job (⟨rest, none⟩ :: outer) }
  | .execute (some guard) job rest =>
    b.seize outer guard (.running job (⟨rest, some guard⟩ :: outer)) .idle
  | .post job rest => { b with mailbox := b.mailbox ++ [job], duty := .running rest outer }
  | .call plugin way next =>
    { b with
      duty := .calling ⟨plugin, way, next, .start, b.host.needs plugin way.performed⟩ outer }
  | .crash => { b with duty := .idle }

/-- The thread goes on with a call: with its task, and when this is over with the wait. -/
def attend (b : Bench) (outer : List Frame) (visit : Visit) : Bench :=
  match visit.errand.task with
  | .done =>
    match visit.errand.returned? with
    | some result =>
      { b with
        duty := .running
          (visit.next (visit.way.conclude (some result) ⟨b.host, true⟩).answer) outer }
    | none => { b with duty := .calling { visit with errand := visit.errand.proceed } outer }
  | .running =>
    match visit.needs with
    | guard :: needs =>
      b.seize outer guard (.calling { visit with needs := needs } outer)
        (aborted visit.way visit.next outer)
    | [] =>
      let (host, errand) := visit.errand.serve visit.plugin visit.way.performed b.host
      match (b.host.perform visit.plugin visit.way.performed).result with
      | none => { b with host := host, duty := aborted visit.way visit.next outer }
      | some _ => { b with host := host, duty := .calling { visit with errand := errand } outer }
  | _ =>
    let (host, errand) := visit.errand.serve visit.plugin visit.way.performed b.host
    { b with host := host, duty := .calling { visit with errand := errand } outer }

/-- The thread goes on. -/
def work (b : Bench) : Bench :=
  match b.duty with
  | .idle =>
    match b.mailbox with
    | [] => b
    | job :: mailbox => { b with mailbox := mailbox, duty := .running job [] }
  | .running chore outer => b.advance outer chore
  | .calling visit outer => b.attend outer visit

/-- The time bound passes.  There is none before the wait begins. -/
def expire (b : Bench) : Bench :=
  match b.duty with
  | .calling visit outer =>
    match visit.errand.task with
    | .done => { b with duty := .calling { visit with errand := visit.errand.expire } outer }
    | _ => b
  | _ => b

/-- One step. -/
def step (b : Bench) : Event → Bench
  | .work => b.work
  | .clock => b.expire
  | .submit job => { b with mailbox := b.mailbox ++ [job] }

/-- Many steps. -/
def run (b : Bench) (events : List Event) : Bench := events.foldl step b

/-- Whether this is a step of the thread. -/
def Event.isWork : Event → Bool
  | .work => true
  | .clock | .submit _ => false

/-- The jobs that are put into the mailbox by others. -/
def submitted : List Event → List Chore
  | [] => []
  | .submit job :: events => job :: submitted events
  | .work :: events | .clock :: events => submitted events

lemma run_cons (b : Bench) (event : Event) (events : List Event) :
    b.run (event :: events) = (b.step event).run events := rfl

lemma isHeld_eq_false {outer : List Frame} (hfree : ∀ frame ∈ outer, frame.guard = none)
    (guard : Guard) : isHeld outer guard = false := by
  rw [isHeld, List.any_eq_false]
  intro frame hframe
  rw [hfree frame hframe]
  exact of_decide_eq_false rfl

end Bench

end PluginHost
