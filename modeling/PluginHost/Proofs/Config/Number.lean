/-
# Numbers of configurations read back

A number is written as the shortest decimal that reads back directly, but what stands in a file is
read with sixty-four bits and narrowed then.  This gives every number back, with the exception of
one magnitude: its decimal is nearer to the midpoint behind it than to any other number of sixty-four
bits, and so the next number is read (`Binary32.readBack?_eq`).  All else in a configuration is read
as it was written (`Config.parse_render_drift`).
-/
import PluginHost.Proofs.Config.Written
import PluginHost.Proofs.Number.Code
import PluginHost.Proofs.Toml.Number

namespace PluginHost

open Toml

namespace Binary32

/-- The number that is read where a number was written. -/
def drift (x : Binary32) : Binary32 :=
  if x.isNaN then nan
  else if x.rank = Format.astray then ofRank x.isNegative (Format.astray + 1)
  else x

/-- What is no number is written without its code. -/
lemma readBack?_nan {x : Binary32} (hx : x.isNaN = true) : x.readBack? = some nan := by
  rw [readBack?, Written.number, if_pos hx]
  decide +kernel

/-- Zero and infinity are read back, and so is the second one of the two numbers in question. -/
lemma readBack?_few : ∀ negative, ∀ rank ∈ [0, Format.single.infinity, Format.astrayTwin],
    (ofRank negative rank).readBack? = some (ofRank negative rank) := by
  decide +kernel

lemma readBack?_astray : ∀ negative, (ofRank negative Format.astray).readBack? =
    some (ofRank negative (Format.astray + 1)) := by
  decide +kernel

variable {x : Binary32}

/-- A number that is written is read back, apart from the magnitude that goes astray. -/
lemma readBack?_of_ne (hx : x.isNaN = false) (hne : x.rank ≠ Format.astray) :
    x.readBack? = some x := by
  by_cases hfew : x.rank ∈ [0, Format.single.infinity, Format.astrayTwin]
  · have hread := readBack?_few x.isNegative x.rank hfew
    rwa [ofRank_rank] at hread
  · simp only [List.mem_cons, List.not_mem_nil, or_false, not_or] at hfew
    obtain ⟨hzero, hinfinite, htwin⟩ := hfew
    have hrank : x.rank ≤ Format.single.infinity := by simpa [isNaN] using hx
    have hpos := Nat.pos_of_ne_zero hzero
    have hfinite := lt_of_le_of_ne hrank hinfinite
    obtain ⟨c, k, hword, hvalue⟩ := scalar?_number hpos hfinite
    obtain ⟨hwide, hnarrow⟩ := Format.convert_ofDecimal hpos hfinite hvalue hne htwin
    have hread : finite? x.isNegative c k = some (.ofDecimal x.isNegative c k) := by
      obtain ⟨hrank, -⟩ := Binary64.ofRank_spec x.isNegative
        (hwide.trans Binary64.infinity_lt_signBit)
      rw [finite?]
      simp only [Binary64.ofDecimal, hrank, if_neg hwide.ne]
    rw [readBack?, hword, Option.bind_some, hread, Shape.number, Option.map_some,
      Binary64.ofDecimal, Binary64.narrow_ofRank hwide, hnarrow, ofRank_rank]

/-- What is read where a number was written. -/
theorem readBack?_eq (x : Binary32) : x.readBack? = some x.drift := by
  rw [drift]
  split_ifs with hnan hastray
  · exact readBack?_nan hnan
  · rw [← readBack?_astray x.isNegative, ← hastray, ofRank_rank]
  · exact readBack?_of_ne (Bool.eq_false_iff.2 hnan) hastray

lemma drift_eq_iff (hx : x.isNaN = false) : x.drift = x ↔ x.rank ≠ Format.astray := by
  rw [drift, hx, if_neg Bool.false_ne_true]
  split
  · next hastray =>
    refine iff_of_false (fun heq => ?_) (not_not_intro hastray)
    obtain ⟨hrank, -⟩ := ofRank_spec x.isNegative
      (show Format.astray + 1 < Format.single.signBit by decide)
    rw [heq, hastray] at hrank
    exact absurd hrank (by decide)
  · next hne => exact iff_of_true rfl hne

end Binary32

namespace AudioConfig

lemma mapNumbers_eq_iff {audio : AudioConfig} {f : Binary32 → Binary32} :
    audio.mapNumbers f = audio ↔ ∀ x ∈ audio.numbers, f x = x := by
  obtain ⟨_, _, _, _, _, _, _, _, _, _⟩ := audio
  simp [mapNumbers, numbers]

end AudioConfig

namespace Config

/-- A configuration that was written is read with the numbers that are read where its own were
written, and each of them is the same again exactly if it does not go astray. -/
theorem parse_render_drift (config : Config) :
    parse config.render =
        some { config with audio := config.audio.mapNumbers Binary32.drift } ∧
      ∀ x ∈ config.audio.numbers, x.isNaN = false →
        (x.drift = x ↔ x.rank ≠ Format.astray) :=
  ⟨parse_of_readBack fun x _ => x.readBack?_eq, fun _ _ hx => Binary32.drift_eq_iff hx⟩

/-- A configuration with numbers that have no digits, with the smallest number and with the one
behind the magnitude that goes astray. -/
def extreme : Config :=
  { default with audio :=
    { AudioConfig.default with
      vadMin := .ofRank true 0
      vadMax := .ofRank true 1
      minDistance := .ofRank true Format.single.infinity
      maxDistance := .ofRank false Format.single.infinity
      bloom := .ofRank false (Format.astray + 1) } }

/-- It is read back. -/
theorem parse_render_extreme : parse extreme.render = some extreme := by
  have hnumbers : ∀ x ∈ extreme.audio.numbers, x.isNaN = false ∧ x.rank ≠ Format.astray := by
    decide +kernel
  obtain ⟨hparse, hdrift⟩ := parse_render_drift extreme
  have hsame : extreme.audio.mapNumbers Binary32.drift = extreme.audio :=
    AudioConfig.mapNumbers_eq_iff.2 fun x hx =>
      (hdrift x hx (hnumbers x hx).1).2 (hnumbers x hx).2
  rw [hparse, hsame]

/-- A configuration with the magnitude that goes astray. -/
def strayed : Config :=
  { default with audio := { AudioConfig.default with bloom := .ofRank false Format.astray } }

/-- The next number is read in its place. -/
theorem parse_render_strayed : strayed.audio.bloom.isNaN = false ∧
    Written.number strayed.audio.bloom = "0.00000000000000000000000007038531".toList ∧
    parse strayed.render = some { strayed with audio :=
      { strayed.audio with bloom := .ofRank false (Format.astray + 1) } } ∧
    parse strayed.render ≠ some strayed := by
  have hbits : strayed.audio.mapNumbers Binary32.drift =
      { strayed.audio with bloom := .ofRank false (Format.astray + 1) } := by decide +kernel
  have hparse : parse strayed.render =
      some { strayed with audio := strayed.audio.mapNumbers Binary32.drift } :=
    parse_of_readBack fun x _ => x.readBack?_eq
  rw [hbits] at hparse
  refine ⟨by decide +kernel, by decide +kernel, hparse, ?_⟩
  rw [hparse]
  decide +kernel

end Config

end PluginHost
