/-
# Versions

A version has three parts.  It serves both for the interface that plugins are compiled
against and for the protocol a server announces.  Versions compare part by part, the first
difference deciding.
-/

namespace PluginHost

/-- A version of an interface or of a protocol. -/
structure Version where
  /-- Changes with every incompatible revision. -/
  major : Int32
  /-- Changes with every addition. -/
  minor : Int32
  /-- Changes with every correction. -/
  patch : Int32
deriving DecidableEq, Repr

namespace Version

/-- The order of two versions: the first part in which they differ decides. -/
def order (a b : Version) : Ordering :=
  (compare a.major b.major).then
    ((compare a.minor b.minor).then (compare a.patch b.patch))

instance : Ord Version := ⟨order⟩

/-- Whether `a` comes strictly before `b`. -/
def before (a b : Version) : Bool := a.order b == .lt

/-- The written form, with points between the parts. -/
def render (v : Version) : String := s!"{v.major}.{v.minor}.{v.patch}"

end Version
end PluginHost
