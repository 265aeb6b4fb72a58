/-
# The ledger of lent buffers

The ledger knows every buffer that a plugin holds, and for whom and by which call it was lent.
Its entries live in slots.  A slot that is given up is put on a stack and used again, under a
generation one higher, so that the handle of an earlier entry is not taken for the new one.
Plugins name a buffer by its address; the index leads from the address to the handle.

What is still lent when the ledger is closed is reported, each buffer once.
-/
import PluginHost.Ledger.Buffer
import PluginHost.Status

namespace PluginHost

/-- The place of an entry in the ledger. -/
structure Handle where
  /-- The number of the slot. -/
  index : Nat
  /-- How often the slot had been given up before. -/
  generation : UInt32
deriving DecidableEq, Repr

/-- A buffer and whom it was lent to. -/
structure Loan where
  /-- What was lent. -/
  buffer : Buffer
  /-- The plugin that holds it. -/
  plugin : PluginId
  /-- The call that lent it. -/
  call : String
deriving DecidableEq, Repr

/-- A slot of the ledger. -/
structure Slot where
  /-- How often the slot has been given up; it wraps. -/
  generation : UInt32
  /-- The entry, if the slot is in use. -/
  loan : Option Loan
deriving DecidableEq, Repr

/-- A buffer that was never given back. -/
structure Leak where
  /-- The plugin that held it. -/
  plugin : PluginId
  /-- The call that lent it. -/
  call : String
  /-- What kind of buffer it was. -/
  kind : String
deriving DecidableEq, Repr

/-- The order in which leaks are reported: by plugin, then by call, then by kind. -/
def Leak.le (a b : Leak) : Bool :=
  ((compare a.plugin b.plugin).then ((compare a.call b.call).then (compare a.kind b.kind))).isLE

/-- The report on an entry. -/
def Loan.leak (loan : Loan) : Leak := ⟨loan.plugin, loan.call, loan.buffer.contents.kind⟩

/-- The ledger of lent buffers. -/
structure Ledger where
  /-- The slots, by number. -/
  slots : List Slot
  /-- The slots that are not in use, the one to be used next in front. -/
  vacant : List Nat
  /-- The handle of every buffer that is lent, by address. -/
  index : List (Address × Handle)
deriving DecidableEq, Repr

namespace Ledger

/-- A ledger without entries. -/
def empty : Ledger := ⟨[], [], []⟩

/-- How many slots there can be. -/
def capacity : Nat := UInt32.size

/-- Whether the buffer at an address is lent. -/
def contains (l : Ledger) (address : Address) : Bool := (l.index.lookup address).isSome

/-- How many buffers are lent. -/
def size (l : Ledger) : Nat := l.index.length

/-- Whether no buffer is lent. -/
def isEmpty (l : Ledger) : Bool := l.index.isEmpty

/-- The entry of the buffer at an address. -/
def loan? (l : Ledger) (address : Address) : Option Loan := do
  let handle ← l.index.lookup address
  let slot ← l.slots[handle.index]?
  if slot.generation = handle.generation then slot.loan else none

/-- Puts an entry into a slot: the one given up last, or a new one.  There is no slot for it
when all of them are in use. -/
def insert (l : Ledger) (loan : Loan) : Option (Handle × Ledger) :=
  match l.vacant with
  | index :: vacant =>
    let generation := (l.slots[index]?.map Slot.generation).getD 0
    let handle : Handle := ⟨index, generation⟩
    some (handle,
      { slots := l.slots.set index ⟨generation, some loan⟩
        vacant := vacant
        index := l.index ++ [(loan.buffer.address, handle)] })
  | [] =>
    if l.slots.length < capacity then
      let handle : Handle := ⟨l.slots.length, 0⟩
      some (handle,
        { l with
          slots := l.slots ++ [⟨0, some loan⟩]
          index := l.index ++ [(loan.buffer.address, handle)] })
    else none

/-- Enters a buffer.  A buffer at an address that is lent already is refused. -/
def register (l : Ledger) (buffer : Buffer) (plugin : PluginId) (call : String) :
    Option (Handle × Ledger) :=
  if l.contains buffer.address then none else l.insert ⟨buffer, plugin, call⟩

/-- Gives up the slot of a handle, and returns its entry.  A handle of an earlier generation
has none. -/
def take (l : Ledger) (handle : Handle) : Option (Loan × Ledger) :=
  match l.slots[handle.index]? with
  | none => none
  | some slot =>
    if slot.generation ≠ handle.generation then none
    else
      match slot.loan with
      | none => none
      | some loan =>
        some (loan,
          { l with
            slots := l.slots.set handle.index ⟨slot.generation + 1, none⟩
            vacant := handle.index :: l.vacant })

/-- Frees the buffer at an address. -/
def release (l : Ledger) (address : Address) : CallResult Unit × Ledger :=
  match l.index.lookup address with
  | none => (.error .pointerNotFound, l)
  | some handle =>
    let l' := { l with index := l.index.filter fun entry => entry.1 ≠ address }
    match l'.take handle with
    | none => (.error .pointerNotFound, l')
    | some (_, l'') => (.ok (), l'')

/-- Lends contents in memory of their own, at the place `address`. -/
def lend (l : Ledger) (address : Address) (contents : Contents) (plugin : PluginId)
    (call : String) : CallResult Buffer × Ledger :=
  let buffer : Buffer := ⟨address, contents⟩
  match l.register buffer plugin call with
  | none => (.error .internalError, l)
  | some (_, l') => (.ok buffer, l')

/-- Gives up the slots of some handles, and returns their entries. -/
def takeAll (l : Ledger) : List Handle → List Loan
  | [] => []
  | handle :: handles =>
    match l.take handle with
    | none => l.takeAll handles
    | some (loan, l') => loan :: l'.takeAll handles

/-- Frees everything that is lent, and reports it.  The ledger is as new afterwards. -/
def close (l : Ledger) : List Leak × Ledger :=
  (((l.takeAll (l.index.map Prod.snd)).map Loan.leak).mergeSort Leak.le, empty)

end Ledger
end PluginHost
