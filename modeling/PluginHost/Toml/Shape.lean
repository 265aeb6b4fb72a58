/-
# Shapes of values

What a file says has to fit the thing that it describes.  Here the shapes are collected that a
value can be required to have; each is a function that returns what the value says in that
shape, or `none` if it does not have it.

A record is a table with certain names, or a list of the values in the order of the names.
Names that the record does not have are passed over, as long as their values are within the
range that can be represented at all.
-/
import PluginHost.Toml.Document
import PluginHost.Identity

namespace PluginHost.Toml

/-- A shape: what a value says, if it has the shape. -/
abbrev Shape (α : Type) := Item → Option α

namespace Shape

/-- Texts. -/
def text : Shape String
  | .string value => some value
  | _ => none

/-- Flags. -/
def flag : Shape Bool
  | .boolean value => some value
  | _ => none

/-- Integers from `low` to `high`. -/
def between (low high : Int) : Shape Int
  | .integer value => if low ≤ value ∧ value ≤ high then some value else none
  | _ => none

/-- Natural numbers of thirty-two bits. -/
def word : Shape UInt32 := fun item =>
  (between 0 (UInt32.size - 1) item).map fun n => UInt32.ofNat n.toNat

/-- Integers of thirty-two bits. -/
def integer : Shape Int32 := fun item =>
  (between Int32.minValue.toInt Int32.maxValue.toInt item).map Int32.ofInt

/-- Octets. -/
def octet : Shape UInt8 := fun item => (between 0 255 item).map fun n => UInt8.ofNat n.toNat

/-- Numbers of thirty-two bits.  They are taken from doubles and from integers that fit into
sixty-four bits, and are the ones nearest to these. -/
def number : Shape Binary32
  | .float value => value.map Binary64.narrow
  | .integer value =>
    if Int64.minValue.toInt ≤ value ∧ value < UInt64.size then some (Binary32.ofInt value)
    else none
  | _ => none

/-- Something that may be missing, but is there. -/
def present {α : Type} (shape : Shape α) : Shape (Option α) := fun item =>
  (shape item).map some

/-- The elements of a list. -/
def elements? : Item → Option (List Item)
  | .array items => some items
  | .tables elements => some (elements.map (.table .headed))
  | _ => none

/-- Lists. -/
def list {α : Type} (shape : Shape α) : Shape (List α) := fun item =>
  (elements? item).bind fun items => items.mapM shape

/-- Whether a value holds nothing. -/
def isVoid : Item → Bool
  | .array items => items.isEmpty
  | .table _ entries => entries.isEmpty
  | _ => false

/-- One of several names, alone or in front of a value that holds nothing. -/
def choice {α : Type} (ofName? : String → Option α) : Shape α
  | .string name => ofName? name
  | .table _ [(name, item)] => if isVoid item then ofName? name else none
  | _ => none

mutual

/-- Whether every number in a value can be represented: integers have at most 128 bits, doubles
are finite unless they are written as infinite, and none is illegible. -/
def isRepresentable : Item → Bool
  | .integer value => -(Nat.pow 2 127 : Int) ≤ value ∧ value < Nat.pow 2 128
  | .float value => value.isSome
  | .illegible => false
  | .array items => areRepresentable items
  | .tables elements => tablesAreRepresentable elements
  | .table _ entries => entriesAreRepresentable entries
  | _ => true

/-- The same for all items. -/
def areRepresentable : List Item → Bool
  | [] => true
  | item :: rest => isRepresentable item && areRepresentable rest

/-- The same for all values of a table. -/
def entriesAreRepresentable : List (String × Item) → Bool
  | [] => true
  | (_, item) :: rest => isRepresentable item && entriesAreRepresentable rest

/-- The same for all values of all tables. -/
def tablesAreRepresentable : List (List (String × Item)) → Bool
  | [] => true
  | entries :: rest => entriesAreRepresentable entries && tablesAreRepresentable rest

end

end Shape

/-- What a record is read from. -/
inductive Record where
  /-- A table. -/
  | named (entries : Entries)
  /-- A list of the values in the order of the names. -/
  | listed (items : List Item)

namespace Record

/-- A value as a record with certain names. -/
def ofItem? (names : List String) : Item → Option Record
  | .table _ entries =>
    if entries.all fun (name, item) => names.contains name || Shape.isRepresentable item then
      some (.named entries)
    else none
  | .array items => some (.listed items)
  | .tables elements => some (.listed (elements.map (.table .headed)))
  | .datetime => some (.named [])
  | _ => none

/-- What a record says under a name that has the given place among the names. -/
def get? (record : Record) (place : Nat) (name : String) : Option Item :=
  match record with
  | named entries => Entries.get? entries name
  | listed items => items[place]?

/-- What a record says under a name; `fallback` if it says nothing. -/
def field {α : Type} (record : Record) (place : Nat) (name : String) (shape : Shape α)
    (fallback : Option α) : Option α :=
  match record.get? place name with
  | none => fallback
  | some item => shape item

end Record
end PluginHost.Toml
