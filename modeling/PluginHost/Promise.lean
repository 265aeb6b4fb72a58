/-
# Promises

A promise carries the result of one call from the host to the waiting caller.  It has a flag,
by which the caller tells the host that it has given up, and a slot for the result.  The slot
keeps the first result that is stored and refuses others while that one is there; taking the
result empties the slot.
-/
import PluginHost.Status

namespace PluginHost

/-- The place where the result of one call is handed over. -/
structure Promise (α : Type) where
  /-- Whether the caller has given up. -/
  cancelled : Bool
  /-- The result, as long as it is stored and not taken. -/
  slot : Option (CallResult α)

namespace Promise

variable {α : Type}

/-- A promise without a result, whose caller waits. -/
def new : Promise α := ⟨false, none⟩

/-- Whether a result is there. -/
def isReady (p : Promise α) : Bool := p.slot.isSome

/-- Stores a result; tells whether it was kept. -/
def set (p : Promise α) (result : CallResult α) : Bool × Promise α :=
  if p.isReady then (false, p) else (true, { p with slot := some result })

/-- Stores a result, if there is none yet. -/
def fulfil (p : Promise α) (result : CallResult α) : Promise α := (p.set result).2

/-- Tells the host that the caller has given up. -/
def cancel (p : Promise α) : Promise α := { p with cancelled := true }

/-- Takes the result out of the slot. -/
def take (p : Promise α) : Option (CallResult α) × Promise α :=
  (p.slot, { p with slot := none })

@[simp] theorem slot_fulfil (p : Promise α) (result : CallResult α) :
    (p.fulfil result).slot = some (p.slot.getD result) := by
  cases h : p.slot <;> simp [fulfil, set, isReady, h]

@[simp] theorem cancelled_fulfil (p : Promise α) (result : CallResult α) :
    (p.fulfil result).cancelled = p.cancelled := by
  cases h : p.slot <;> simp [fulfil, set, isReady, h]

end Promise
end PluginHost
