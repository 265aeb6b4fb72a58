/-
# Serving calls

The host runs on a thread of its own.  A call comes with a promise: the host skips it when its
caller has given up, and otherwise performs it and stores the result.  A caller on another
thread hands the call over and waits; a caller that is itself on the host's thread has the call
performed at once.  When the host has stopped, calls fail.

A crash ends the piece of work in which it happens.  On the host's thread the caller is part
of that piece of work; on another thread it is not, and waits in vain.
-/
import PluginHost.Call.Perform
import PluginHost.Promise.Handover

namespace PluginHost

/-- Where the caller runs. -/
inductive Thread where
  /-- On the host's thread, inside a piece of the host's work. -/
  | host
  /-- On another thread. -/
  | plugin
deriving DecidableEq, Repr

/-- A host that calls can be handed to. -/
structure Service where
  /-- The host. -/
  host : Host
  /-- Whether it still runs. -/
  running : Bool

/-- What has become of a call that was handed over. -/
structure Served where
  /-- The promise of the call. -/
  promise : Promise Reply
  /-- Whether the call crashed. -/
  crashed : Bool
  /-- The service afterwards. -/
  service : Service

namespace Service

/-- The service with another state of its host. -/
def withHost (s : Service) (host : Host) : Service := { s with host := host }

/-- Hands a call over.  One whose caller has given up is skipped; a host that has stopped
stores the failure itself. -/
def submit (s : Service) (plugin : PluginId) (call : Call) (promise : Promise Reply) : Served :=
  if !s.running then ⟨promise.fulfil (.error .internalError), false, s⟩
  else if promise.cancelled then ⟨promise, false, s⟩
  else
    match s.host.perform plugin call with
    | ⟨none, host⟩ => ⟨promise, true, s.withHost host⟩
    | ⟨some result, host⟩ => ⟨promise.fulfil result, false, s.withHost host⟩

/-- Hands a call over and waits for its result, which is `none` when a crash ends the caller's
own piece of work. -/
def call (s : Service) (thread : Thread) (plugin : PluginId) (call : Call) :
    Option (CallResult Reply) × Service :=
  let served := s.submit plugin call .new
  if served.crashed ∧ thread = .host then (none, served.service)
  else (some served.promise.await.1, served.service)

/-- Stops the host, and reports what is still lent; `none` when it has stopped before. -/
def stop (s : Service) : Option (List Leak) × Service :=
  if s.running then
    let (leaks, ledger) := s.host.ledger.close
    (some leaks, ⟨{ s.host with ledger := ledger }, false⟩)
  else (none, s)

end Service
end PluginHost
