/-
# The host's thread

The host does its work on one thread, piece by piece, in the order in which the pieces were
handed over.  A piece of work is a script: a program that notes things down and lends texts.

When the thread stops it reports the buffers that are still lent.
-/
import PluginHost.Ledger
import PluginHost.Program

namespace PluginHost

/-- What is noted down while scripts run; `α` is the type of what they note themselves. -/
inductive Event (α : Type) where
  /-- What a script notes. -/
  | noted (value : α)
  /-- A script was run or handed over. -/
  | accepted
  /-- A script was run, and so much was lent then. -/
  | answered (live : Nat)
  /-- Another thread handed a script over. -/
  | acceptedOffThread
  /-- A text of so many octets was lent, or could not be. -/
  | lent (length : CallResult Nat)
  /-- So much is lent. -/
  | live (count : Nat)
  /-- The script runs on the host's thread. -/
  | onHostThread

/-- What scripts work on. -/
structure Desk (α : Type) where
  /-- What is lent. -/
  ledger : Ledger
  /-- Where the next buffer goes. -/
  allocator : Allocator
  /-- What was noted down, the first in front. -/
  events : List (Event α)

/-- A piece of the host's work. -/
abbrev Script (α : Type) := Program (Desk α)

/-- The state of the host's thread. -/
structure Worker (α : Type) extends Desk α where
  /-- The scripts that were handed over and have not begun, the next one in front. -/
  queue : List (Script α)

/-- Refusal of work by a thread that has stopped. -/
inductive HostError where
  /-- The thread has stopped. -/
  | closed
deriving DecidableEq, Repr

/-- What a person is told. -/
def HostError.message : HostError → String
  | closed => "host executor is not running"

/-- The name of the host's thread. -/
def hostThreadName : String := "voxlink-host"

variable {α : Type}

namespace Desk

/-- Notes something down. -/
def record (d : Desk α) (event : Event α) : Desk α := { d with events := d.events ++ [event] }

/-- Lends a text, and notes its length. -/
def lend (d : Desk α) (plugin : PluginId) (call text : String) : Desk α :=
  let (result, ledger) := d.ledger.lend d.allocator.fresh (.ofText text) plugin call
  { d with ledger := ledger, allocator := d.allocator.advance }.record
    (.lent (result.map fun (buffer : Buffer) => buffer.contents.length))

end Desk

namespace Script

/-- Note something down. -/
def note (value : α) (rest : Script α) : Script α := .change (·.record (.noted value)) rest

/-- Run a script here. -/
def execute (job rest : Script α) : Script α :=
  Program.execute job (.change (·.record .accepted) rest)

/-- Hand over a script. -/
def post (job rest : Script α) : Script α := Program.post job (.change (·.record .accepted) rest)

/-- Run a script here and ask how much is lent then. -/
def query (job rest : Script α) : Script α :=
  Program.query job (fun d => d.record (.answered d.ledger.size)) rest

/-- Have another thread run a script, which hands it over. -/
def offThread (job rest : Script α) : Script α :=
  Program.post job (.change (·.record .acceptedOffThread) rest)

/-- Lend a text. -/
def lend (plugin : PluginId) (call text : String) (rest : Script α) : Script α :=
  .change (·.lend plugin call text) rest

/-- Note how much is lent. -/
def live (rest : Script α) : Script α := .change (fun d => d.record (.live d.ledger.size)) rest

/-- Note which thread this is. -/
def thread (rest : Script α) : Script α := .change (·.record .onHostThread) rest

end Script

namespace Worker

/-- A thread that has not done anything. -/
def new : Worker α := ⟨⟨.empty, .new, []⟩, []⟩

/-- Runs the scripts that were handed over, and those that they hand over, until none is
left. -/
def drain (w : Worker α) : Worker α := ⟨Program.drain w.toDesk w.queue, []⟩

/-- Hands a script over from another thread and lets everything run that waits. -/
def post (w : Worker α) (job : Script α) : Worker α :=
  { w with queue := w.queue ++ [job] }.drain

/-- Hands a script over from another thread and waits for it; the answer is how much is lent
when it is done, and there is none if it crashes. -/
def query (w : Worker α) (job : Script α) : Option Nat × Worker α :=
  let ending := Program.run w.drain.toDesk job
  (if ending.completed then some ending.state.ledger.size else none,
    drain ⟨ending.state, ending.posted⟩)

/-- Stops the thread when everything has run that waits, and reports what is still lent. -/
def stop (w : Worker α) : List Leak × Worker α :=
  let w' := w.drain
  let (leaks, ledger) := w'.ledger.close
  (leaks, { w' with ledger := ledger })

end Worker
end PluginHost
