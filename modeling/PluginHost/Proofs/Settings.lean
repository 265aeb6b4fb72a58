/-
# Settings under their keys

A key tells the type of its value, and a value of another type is refused.  What is kept of a value
is what the setting can hold: an integer is cut to thirty-two bits, and a double is narrowed.  The
reader and the writer choose the setting by separate case distinctions, and they agree: after any
writes, under each key stands what was kept of the last value that was accepted for it, or what was
there at the beginning.  What has no key is never touched, and a value that was read can be written
back, by which nothing changes (`AudioSettings.keyed_run`).

Plugins that write settings do nothing else to the host (`Host.setSettings_eq`).
-/
import PluginHost.Proofs.Call.Precedence
import PluginHost.Proofs.Number.Code

namespace PluginHost

/-! ## Keys and values -/

/-- Only the numbers from zero to six are those of keys. -/
lemma SettingsKey.ofRaw_eq_invalid_iff (raw : Int32) :
    ofRaw raw = .invalid ↔ ¬ (0 ≤ raw ∧ raw ≤ 6) := by
  have hcases : (0 ≤ raw ∧ raw ≤ 6) ↔ raw = 0 ∨ raw = 1 ∨ raw = 2 ∨ raw = 3 ∨ raw = 4 ∨ raw = 5 ∨
      raw = 6 := by
    have hraw (n : Int32) : raw = n ↔ raw.toInt = n.toInt := Int32.toInt_inj.symm
    have h0 : (0 : Int32).toInt = 0 := by decide
    have h1 : (1 : Int32).toInt = 1 := by decide
    have h2 : (2 : Int32).toInt = 2 := by decide
    have h3 : (3 : Int32).toInt = 3 := by decide
    have h4 : (4 : Int32).toInt = 4 := by decide
    have h5 : (5 : Int32).toInt = 5 := by decide
    have h6 : (6 : Int32).toInt = 6 := by decide
    simp only [Int32.le_iff_toInt_le, hraw, h0, h1, h2, h3, h4, h5, h6]
    omega
  rw [hcases]
  unfold ofRaw
  split_ifs <;> simp_all

namespace SettingValue

/-- What a setting holds of a value. -/
def kept : SettingValue → SettingValue
  | bool value => bool value
  | int value =>
    int (.ofInt (max Int32.minValue.toInt (min value.toInt Int32.maxValue.toInt)))
  | double value => double value.narrow.widen
  | string value => string value

end SettingValue

namespace AudioSettings

/-- An integer is cut to the bound that it is beyond. -/
lemma toInt64_saturate (n : Int64) : (saturate n).toInt64 =
    .ofInt (max Int32.minValue.toInt (min n.toInt Int32.maxValue.toInt)) := by
  have hlow : Int32.minValue.toInt64.toInt = -2147483648 := by decide
  have hhigh : Int32.maxValue.toInt64.toInt = 2147483647 := by decide
  have hlow' : Int32.minValue.toInt = -2147483648 := by decide
  have hhigh' : Int32.maxValue.toInt = 2147483647 := by decide
  simp only [saturate, Int64.lt_iff_toInt_lt, hlow, hhigh, hlow', hhigh']
  split_ifs with hbelow habove
  · rw [max_eq_left (by omega)]
    rfl
  · rw [min_eq_right (by omega)]
    rfl
  · rw [min_eq_left (by omega), max_eq_right (by omega), Int64.ofInt_toInt, ← Int64.toInt_inj,
      Int32.toInt_toInt64, Int64.toInt_toInt32]
    exact Int.bmod_eq_of_le (by omega) (by omega)

lemma saturate_toInt64 (n : Int32) : saturate n.toInt64 = n := by
  have hcut := toInt64_saturate n.toInt64
  rw [Int32.toInt_toInt64, min_eq_left n.toInt_le, max_eq_right n.minValue_le_toInt,
    ← Int32.toInt_toInt64, Int64.ofInt_toInt] at hcut
  rw [← (saturate n.toInt64).toInt32_toInt64, hcut, n.toInt32_toInt64]

/-- Widening and narrowing makes a number of what is none, but widening again does not tell. -/
lemma widen_narrow_widen (x : Binary32) : x.widen.narrow.widen = x.widen := by
  cases hx : x.isNaN with
  | false => rw [Binary32.narrow_widen hx]
  | true =>
    have hwiden : x.widen = Binary64.nan := by rw [Binary32.widen, if_pos hx]
    rw [hwiden]
    decide +kernel

/-! ## One write -/

/-- The number under a key, if there is one. -/
def number? (s : AudioSettings) : SettingsKey → Option Binary32
  | .invalid | .voiceHold => none
  | .vadSilenceThreshold => some s.vadMin
  | .vadSpeechThreshold => some s.vadMax
  | .positionalMinimumDistance => some s.minDistance
  | .positionalMaximumDistance => some s.maxDistance
  | .positionalBloom => some s.bloom
  | .positionalMinimumVolume => some s.maxDistanceVolume

/-- What has no key. -/
def unkeyed (s : AudioSettings) : TransmissionMode × Bool × Bool × Bool × Int32 :=
  (s.transmit, s.mute, s.deaf, s.microphoneOverwrite, s.noiseCancelStrength)

/-- In `s'` a value has been written under a key of `s`. -/
structure Written (s : AudioSettings) (key : SettingsKey) (value : SettingValue)
    (s' : AudioSettings) : Prop where
  /-- What is kept of the value stands under the key. -/
  own : s'.get key = some value.kept
  /-- What stands under other keys is the same. -/
  others : ∀ other, other ≠ key → s'.get other = s.get other
  /-- So is what has no key. -/
  unkeyed : s'.unkeyed = s.unkeyed

variable (s : AudioSettings) {key : SettingsKey} {value : SettingValue}

/-- What stands under a key has the type that the key tells. -/
lemma kind_get (key : SettingsKey) : (s.get key).map SettingValue.kind = key.kind? := by
  cases key <;> rfl

lemma set_eq_unknown_iff : s.set key value = .error .unknownSettingsKey ↔ key = .invalid := by
  cases key <;> cases value <;> simp [set]

lemma set_eq_wrong_iff : s.set key value = .error .wrongSettingsType ↔
    key ≠ .invalid ∧ key.kind? ≠ some value.kind := by
  cases key <;> cases value <;> simp [set, SettingsKey.kind?, SettingValue.kind]

/-- A value of the type that the key tells is written. -/
lemma exists_written (hkind : key.kind? = some value.kind) :
    ∃ s', s.set key value = .ok s' ∧ Written s key value s' := by
  cases key with
  | invalid => cases hkind
  | voiceHold =>
    cases value with
    | int n =>
      refine ⟨_, rfl, ?_, fun other hne => ?_, rfl⟩
      · rw [SettingValue.kept, ← toInt64_saturate]
        rfl
      · cases other <;> first | rfl | exact absurd rfl hne
    | bool | double | string => cases hkind
  | _ =>
    cases value with
    | double x =>
      refine ⟨_, rfl, rfl, fun other hne => ?_, rfl⟩
      cases other <;> first | rfl | exact absurd rfl hne
    | bool | int | string => cases hkind

/-- A value that was read is written back. -/
lemma set_get (hget : s.get key = some value) :
    ∃ s', s.set key value = .ok s' ∧ (∀ other, s'.get other = s.get other) ∧
      s'.unkeyed = s.unkeyed ∧
      ((∀ x, s.number? key = some x → x.isNaN = false) → s' = s) := by
  have hkind : key.kind? = some value.kind := by rw [← s.kind_get key, hget, Option.map_some]
  obtain ⟨s', hset, hown, hothers, hunkeyed⟩ := s.exists_written hkind
  have hkept : value.kept = value := by
    cases key with
    | invalid => cases hget
    | voiceHold =>
      obtain rfl := Option.some.inj hget
      rw [SettingValue.kept, ← toInt64_saturate, saturate_toInt64]
    | _ =>
      obtain rfl := Option.some.inj hget
      rw [SettingValue.kept, widen_narrow_widen]
  refine ⟨s', hset, fun other => ?_, hunkeyed, fun hnumber => ?_⟩
  · by_cases heq : other = key
    · rw [heq, hown, hkept, hget]
    · exact hothers other heq
  · cases key with
    | invalid => cases hget
    | voiceHold =>
      obtain rfl := Option.some.inj hget
      rw [set, saturate_toInt64] at hset
      exact (Except.ok.inj hset).symm
    | _ =>
      obtain rfl := Option.some.inj hget
      rw [set, Binary32.narrow_widen (hnumber _ rfl)] at hset
      exact (Except.ok.inj hset).symm

/-! ## Writes one after another -/

/-- The settings after a value was to be written under a key. -/
def write (s : AudioSettings) (entry : SettingsKey × SettingValue) : AudioSettings :=
  match s.set entry.1 entry.2 with
  | .ok s' => s'
  | .error _ => s

/-- The settings after several values were to be written. -/
def run (s : AudioSettings) (entries : List (SettingsKey × SettingValue)) : AudioSettings :=
  entries.foldl write s

/-- The last one of the values that were accepted for a key. -/
def last? (key : SettingsKey) (entries : List (SettingsKey × SettingValue)) :
    Option SettingValue :=
  (entries.filter fun entry =>
    entry.1 = key ∧ key.kind? = some entry.2.kind).getLast?.map Prod.snd

variable {entry : SettingsKey × SettingValue} {entries : List (SettingsKey × SettingValue)}

lemma last?_concat (key : SettingsKey) : last? key (entries ++ [entry]) =
    if entry.1 = key ∧ key.kind? = some entry.2.kind then some entry.2 else last? key entries := by
  rw [last?, List.filter_append]
  split_ifs with haccepted
  · rw [List.filter_cons_of_pos (by simpa using haccepted), List.filter_nil,
      List.getLast?_concat, Option.map_some]
  · rw [List.filter_cons_of_neg (by simpa using haccepted), List.filter_nil, List.append_nil,
      last?]

lemma run_concat : s.run (entries ++ [entry]) = (s.run entries).write entry := by
  simp [run]

/-- Either the value is of the type that the key tells, and is written, or nothing happens. -/
lemma write_cases (entry : SettingsKey × SettingValue) :
    entry.1.kind? = some entry.2.kind ∧ Written s entry.1 entry.2 (s.write entry) ∨
      entry.1.kind? ≠ some entry.2.kind ∧ s.write entry = s := by
  obtain ⟨key, value⟩ := entry
  by_cases hkind : key.kind? = some value.kind
  · obtain ⟨s', hset, hwritten⟩ := s.exists_written hkind
    left
    refine ⟨hkind, ?_⟩
    simp only [write, hset]
    exact hwritten
  · right
    refine ⟨hkind, ?_⟩
    by_cases hkey : key = .invalid
    · simp only [write, s.set_eq_unknown_iff.2 hkey]
    · simp only [write, s.set_eq_wrong_iff.2 ⟨hkey, hkind⟩]

lemma unkeyed_run (entries : List (SettingsKey × SettingValue)) :
    (s.run entries).unkeyed = s.unkeyed := by
  induction entries using List.reverseRecOn with
  | nil => rfl
  | append_singleton entries entry ih =>
    rw [run_concat, ← ih]
    obtain ⟨-, hwritten⟩ | ⟨-, heq⟩ := (s.run entries).write_cases entry
    · exact hwritten.unkeyed
    · rw [heq]

lemma get_run (entries : List (SettingsKey × SettingValue)) (key : SettingsKey) :
    (s.run entries).get key = ((last? key entries).map SettingValue.kept).or (s.get key) := by
  induction entries using List.reverseRecOn with
  | nil => rfl
  | append_singleton entries entry ih =>
    rw [run_concat, last?_concat]
    obtain ⟨hkind, hwritten⟩ | ⟨hkind, heq⟩ := (s.run entries).write_cases entry
    · by_cases hkey : entry.1 = key
      · subst hkey
        rw [if_pos ⟨rfl, hkind⟩, hwritten.own]
        rfl
      · rw [if_neg fun h => hkey h.1, hwritten.others key (Ne.symm hkey), ih]
    · have hnot : ¬ (entry.1 = key ∧ key.kind? = some entry.2.kind) := by
        rintro ⟨rfl, h⟩
        exact hkind h
      rw [if_neg hnot, heq, ih]

/-- **Writing and reading settings by their keys.** -/
theorem keyed_run (s : AudioSettings) (entries : List (SettingsKey × SettingValue)) :
    let after := s.run entries
    (∀ key value,
      (after.set key value = .error .unknownSettingsKey ↔ key = .invalid) ∧
      (after.set key value = .error .wrongSettingsType ↔
        key ≠ .invalid ∧ key.kind? ≠ some value.kind) ∧
      (key.kind? ≠ some value.kind → s.run (entries ++ [(key, value)]) = after)) ∧
    (∀ key, (after.get key).map SettingValue.kind = key.kind? ∧
      after.get key = ((last? key entries).map SettingValue.kept).or (s.get key)) ∧
    after.unkeyed = s.unkeyed ∧
    (∀ key value, after.get key = some value → ∃ again, after.set key value = .ok again ∧
      (∀ other, again.get other = after.get other) ∧ again.unkeyed = after.unkeyed ∧
      ((∀ x, after.number? key = some x → x.isNaN = false) → again = after)) ∧
    ∀ raw, SettingsKey.ofRaw raw = .invalid ↔ ¬ (0 ≤ raw ∧ raw ≤ 6) := by
  intro after
  refine ⟨fun key value => ⟨after.set_eq_unknown_iff, after.set_eq_wrong_iff, fun hkind => ?_⟩,
    fun key => ⟨after.kind_get key, s.get_run entries key⟩, s.unkeyed_run entries,
    fun key value hget => after.set_get hget, SettingsKey.ofRaw_eq_invalid_iff⟩
  rw [run_concat]
  obtain ⟨haccepted, -⟩ | ⟨-, heq⟩ := after.write_cases (key, value)
  · exact absurd haccepted hkind
  · exact heq

/-- An integer beyond the bound, a double, and values of other types behind them: what was read is
written back. -/
theorem keyed_run_mixed :
    let after := (ofConfig .default).run
      [(.voiceHold, .int 4294967296), (.positionalBloom, .double (.ofDecimal false 1 (-1))),
        (.positionalBloom, .int 2), (.voiceHold, .bool true)]
    after.get .voiceHold = some (.int 2147483647) ∧
      after.get .positionalBloom = some (.double (Binary32.ofDecimal false 1 (-1)).widen) ∧
      after.set .positionalBloom (.double (Binary32.ofDecimal false 1 (-1)).widen) = .ok after := by
  intro after
  obtain ⟨-, hget, -, hback, -⟩ := keyed_run (ofConfig .default)
    [(.voiceHold, .int 4294967296), (.positionalBloom, .double (.ofDecimal false 1 (-1))),
      (.positionalBloom, .int 2), (.voiceHold, .bool true)]
  have hhold : after.get .voiceHold = some (.int 2147483647) :=
    (hget .voiceHold).2.trans (by decide +kernel)
  have hbloom : after.get .positionalBloom =
      some (.double (Binary32.ofDecimal false 1 (-1)).widen) :=
    (hget .positionalBloom).2.trans (by decide +kernel)
  obtain ⟨again, hset, -, -, hsame⟩ := hback _ _ hbloom
  have hnumber : ∀ x, after.number? .positionalBloom = some x → x.isNaN = false := by
    intro x hx
    obtain rfl := Option.some.inj hx
    decide +kernel
  exact ⟨hhold, hbloom, hset.trans (congrArg Except.ok (hsame hnumber))⟩

end AudioSettings

/-! ## The host -/

namespace Host

variable {h : Host} {plugin : PluginId}

/-- A plugin that writes a setting is told whether it was accepted, and all else stays the same. -/
theorem perform_setSetting (haccepts : h.registry.Accepts plugin) (key : SettingsKey)
    (value : SettingValue) : h.perform plugin (.setSetting key value) =
      ⟨some ((h.settings.set key value).map fun _ => .unit),
        { h with settings := h.settings.write (key, value) }⟩ := by
  rw [perform_of_accepts haccepts]
  simp only [performAccepted, AudioSettings.write]
  cases h.settings.set key value with
  | error code => rfl
  | ok settings => rfl

/-- So a refused write changes nothing, and several writes leave the settings as they leave them. -/
theorem setSettings_eq (haccepts : h.registry.Accepts plugin)
    (entries : List (SettingsKey × SettingValue)) :
    (entries.foldl (fun h entry => (h.perform plugin (.setSetting entry.1 entry.2)).host) h) =
      { h with settings := h.settings.run entries } := by
  induction entries generalizing h with
  | nil => rfl
  | cons entry entries ih =>
    rw [List.foldl_cons, perform_setSetting haccepts]
    exact ih haccepts

end Host

end PluginHost
