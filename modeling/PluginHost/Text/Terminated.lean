/-
# Text up to the first NUL

Text crosses the plugin boundary as octets that end at the first NUL.  Whatever stands behind
that octet is not seen on the other side.
-/
import PluginHost.Text.Utf8

namespace PluginHost.Terminated

/-- The octets in front of the first NUL. -/
def untilNul (bytes : Bytes) : Bytes := bytes.takeWhile (· ≠ 0)

/-- The octets that hold a text behind the boundary: those in front of the first NUL, and a
NUL behind them. -/
def store (bytes : Bytes) : Bytes := untilNul bytes ++ [0]

/-- Reads the text that begins at the first octet. -/
def read (bytes : Bytes) : String := Utf8.repair (untilNul bytes)

theorem zero_notMem_untilNul (bytes : Bytes) : (0 : UInt8) ∉ untilNul bytes := by
  have h := List.all_takeWhile (p := fun b : UInt8 => decide (b ≠ 0)) (l := bytes)
  intro hm
  simpa using List.all_eq_true.1 h 0 hm

/-- Storing loses nothing in front of the NUL. -/
theorem untilNul_store (bytes : Bytes) : untilNul (store bytes) = untilNul bytes := by
  unfold store
  induction bytes with
  | nil => rfl
  | cons b rest ih =>
    by_cases h : b = 0
    · simp [untilNul, h]
    · simpa [untilNul, h] using ih

end PluginHost.Terminated
