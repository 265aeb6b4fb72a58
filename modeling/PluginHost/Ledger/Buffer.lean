/-
# Lent buffers

What the host lends to a plugin is a buffer: a text or a list of numbers, at an address.  A
plugin sees nothing but the address, and gives it back to have the buffer freed.

The allocator decides on the addresses.  All that is asked of it is that it never gives out
one that is still in use; what it gives out for the n-th request is a parameter.
-/
import PluginHost.Text.Terminated

namespace PluginHost

/-- A place in memory. -/
inductive Address where
  /-- The place made by the allocation with this number. -/
  | allocation (serial : Nat)
  /-- The place where every list without room of its own begins. -/
  | dangling
  /-- Any other place, by its number. -/
  | foreign (raw : Nat)
deriving DecidableEq, Repr

/-- The place where nothing ever is. -/
def Address.null : Address := .foreign 0

/-- Hands out places. -/
structure Allocator where
  /-- The place for the n-th request. -/
  place : Nat → Address
  /-- How many requests there have been. -/
  used : Nat

namespace Allocator

/-- An allocator that never gives out a place again. -/
def new : Allocator := ⟨.allocation, 0⟩

/-- The place for the next request. -/
def fresh (a : Allocator) : Address := a.place a.used

/-- The allocator after one more request. -/
def advance (a : Allocator) : Allocator := { a with used := a.used + 1 }

end Allocator

/-- What a buffer holds. -/
inductive Contents where
  /-- A text, as its octets in front of the terminating NUL. -/
  | text (octets : Bytes)
  /-- A list of users. -/
  | userIds (ids : List UserId)
  /-- A list of channels. -/
  | channelIds (ids : List ChannelId)
deriving DecidableEq, Repr

namespace Contents

/-- The text that a plugin sees of `s`: it ends in front of the first NUL. -/
def ofText (s : String) : Contents := .text (Terminated.untilNul (Utf8.encode s))

/-- What kind of buffer it is, in words. -/
def kind : Contents → String
  | .text _ => "text"
  | .userIds _ => "user ids"
  | .channelIds _ => "channel ids"

/-- The length a plugin is told: octets in front of the NUL, or elements. -/
def length : Contents → Nat
  | .text octets => octets.length
  | .userIds ids => ids.length
  | .channelIds ids => ids.length

/-- Where contents are that came with the memory they had before, `fresh` being that memory.
A text always has memory, for its NUL; an empty list has none. -/
def ownPlace (fresh : Address) : Contents → Address
  | .text _ => fresh
  | .userIds ids => if ids = [] then .dangling else fresh
  | .channelIds ids => if ids = [] then .dangling else fresh

end Contents

/-- Something lent. -/
structure Buffer where
  /-- Where it is. -/
  address : Address
  /-- What it holds. -/
  contents : Contents
deriving DecidableEq, Repr

end PluginHost
