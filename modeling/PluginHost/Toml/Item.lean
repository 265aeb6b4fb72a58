/-
# Values of configuration files

A file in TOML is a table: names with values, where a value can be a table again.  Some tables
come about in passing, as when `a.b` is written for a table that was not written down itself;
how a table came about decides whether more may be written into it.
-/
import PluginHost.Number.Binary

namespace PluginHost.Toml

/-- How a table came about. -/
inductive TableKind where
  /-- Between braces; it is complete. -/
  | inline
  /-- Under a header of its own. -/
  | headed
  /-- On the way to a table with a header. -/
  | implied
  /-- On the way to a value whose name has dots. -/
  | dotted
deriving DecidableEq, Repr

/-- A value. -/
inductive Item where
  /-- A text. -/
  | string (value : String)
  /-- An integer, of any size. -/
  | integer (value : Int)
  /-- A number with a fraction or exponent; `none` when it is larger than all doubles. -/
  | float (value : Option Binary64)
  /-- A flag. -/
  | boolean (value : Bool)
  /-- A date, a time, or both. -/
  | datetime
  /-- What shows an integer, but writes no number. -/
  | illegible
  /-- A list between brackets. -/
  | array (items : List Item)
  /-- A list of tables, each of which has a header. -/
  | tables (elements : List (List (String × Item)))
  /-- A table. -/
  | table (kind : TableKind) (entries : List (String × Item))

/-- The names of a table, with their values. -/
abbrev Entries := List (String × Item)

end PluginHost.Toml
