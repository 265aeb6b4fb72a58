/-
# Listing plugins

What is known about plugins is listed in JSON, and read back from it.  What is not known is
left out.  When reading, names that are not expected are passed over, but none of the expected
ones may come twice; a record may also be written as the list of all its values, in order.
-/
import PluginHost.Json.Value
import PluginHost.Json.Written
import PluginHost.Registry

namespace PluginHost

/-! ## Writing -/

/-- A version as it is written. -/
def Version.listed (v : Version) : Json.Written :=
  .record [("major", .integer v.major.toInt), ("minor", .integer v.minor.toInt),
    ("patch", .integer v.patch.toInt)]

/-- What is known about a plugin, as it is written. -/
def PluginInfo.listed (info : PluginInfo) : Json.Written :=
  .record <|
    [("id", .integer info.id.toNat), ("name", .text info.name)]
      ++ (match info.version with
        | none => []
        | some version => [("version", .text version)])
      ++ (match info.apiVersion with
        | none => []
        | some version => [("api_version", version.listed)])
      ++ [("origin", .text info.origin.name)]

/-- A list of plugins, as it is written. -/
def PluginInfo.listing (infos : List PluginInfo) : String :=
  Json.Written.render (.list (infos.map PluginInfo.listed))

/-- The list of all plugins, as it is written. -/
def Registry.listing (r : Registry) : String := PluginInfo.listing r.infos

/-! ## Reading -/

namespace Json

/-- The values of a record with certain names, in the order of the names.  A value is `none`
if its name is missing. -/
def Value.fields? (names : List String) : Value → Option (List (Option Value))
  | .array items => if items.length = names.length then some (items.map some) else none
  | .object members =>
    let found (name : String) : List Value :=
      members.filterMap fun (other, value) => if other = some name then some value else none
    if (members.all fun (name, _) => name.isSome)
        ∧ names.all fun name => (found name).length ≤ 1 then
      some (names.map fun name => (found name).head?)
    else none
  | _ => none

/-- A text. -/
def Value.text? : Value → Option String
  | .string text => text
  | _ => none

/-- An integer from `low` to `high`. -/
def Value.between? (low high : Int) : Value → Option Int
  | .number (some n) => if low ≤ n ∧ n ≤ high then some n else none
  | _ => none

/-- A natural number of thirty-two bits. -/
def Value.word? (value : Value) : Option UInt32 :=
  (value.between? 0 (UInt32.size - 1)).map fun n => UInt32.ofNat n.toNat

/-- An integer of thirty-two bits. -/
def Value.integer? (value : Value) : Option Int32 :=
  (value.between? Int32.minValue.toInt Int32.maxValue.toInt).map Int32.ofInt

/-- Something that may be missing; the outer `none` is a value of the wrong kind. -/
def Value.optional? {α : Type} (read : Value → Option α) : Option Value → Option (Option α)
  | none | some .null => some none
  | some value => (read value).map some

end Json

/-- Reads a version. -/
def Version.ofJson? (value : Json.Value) : Option Version := do
  match ← value.fields? ["major", "minor", "patch"] with
  | [some major, some minor, some patch] =>
    return ⟨← major.integer?, ← minor.integer?, ← patch.integer?⟩
  | _ => none

/-- Reads an origin: its name, alone or in front of nothing. -/
def PluginOrigin.ofJson? : Json.Value → Option PluginOrigin
  | .string (some name) => ofName? name
  | .object [(some name, .null)] => ofName? name
  | _ => none

/-- Reads what is known about a plugin. -/
def PluginInfo.ofJson? (value : Json.Value) : Option PluginInfo := do
  match ← value.fields? ["id", "name", "version", "api_version", "origin"] with
  | [some id, some name, version, apiVersion, some origin] =>
    return {
      id := ← id.word?
      name := ← name.text?
      version := ← Json.Value.optional? Json.Value.text? version
      apiVersion := ← Json.Value.optional? Version.ofJson? apiVersion
      origin := ← PluginOrigin.ofJson? origin }
  | _ => none

/-- What a text says about a plugin. -/
def PluginInfo.parse (text : String) : Option PluginInfo := do
  PluginInfo.ofJson? (← Json.read text)

end PluginHost
