/-
# Building tables

A value with a dotted name is put where its names lead, and tables on the way come about if
they are not there yet.  The same holds for headers.  What is complete is not written into
again: no name is given a value twice, a table between braces gets no more names, and a table
under a header gets none by way of dots.  A table that a header has brought about in passing is
open to dotted names, but once they have gone into it, it can have no header of its own.

In a list of tables under headers, a name leads into the last table.
-/
import PluginHost.Toml.Item

namespace PluginHost.Toml

/-- The names that lead to a value. -/
abbrev Path := List String

namespace Entries

/-- The value under a name. -/
def get? (entries : Entries) (name : String) : Option Item := List.lookup name entries

/-- Changes what is under a name, which is nothing at first; new names go behind the others.
The result is `none` if the change is not possible. -/
def alter (name : String) (change : Option Item → Option Item) : Entries → Option Entries
  | [] => (change none).map fun item => [(name, item)]
  | (other, item) :: rest =>
    if other = name then (change (some item)).map fun item => (other, item) :: rest
    else (alter name change rest).map ((other, item) :: ·)

/-- Changes the last table of a list. -/
def alterLast (change : Entries → Option Entries) : List Entries → Option (List Entries)
  | [] => none
  | [last] => (change last).map fun last => [last]
  | first :: rest => (alterLast change rest).map (first :: ·)

/-- Gives a value to a name that has none. -/
def fill (value : Item) : Option Item → Option Item
  | none => some value
  | some _ => none

/-- Gives a value to a dotted name.  The dots lead into tables that came about by dots or that a
header implies, and the latter count as tables that came about by dots from then on.  They lead
through the last table of a list as well, which gets no name itself. -/
def add (value : Item) : Path → Entries → Option Entries
  | [], _ => none
  | [name], entries => alter name (fill value) entries
  | name :: path, entries =>
    let change : Option Item → Option Item
      | none => (add value path []).map (.table .dotted)
      | some (.table .dotted inner) => (add value path inner).map (.table .dotted)
      | some (.table .implied inner) => (add value path inner).map (.table .dotted)
      | some (.tables elements) =>
        if path.length = 1 then none else (alterLast (add value path) elements).map .tables
      | some _ => none
    alter name change entries

/-- Gives values to dotted names, one after the other. -/
def addAll (entries : Entries) : List (Path × Item) → Option Entries
  | [] => some entries
  | (path, value) :: rest =>
    match add value path entries with
    | none => none
    | some entries => addAll entries rest

/-- Changes what is under the name that a header leads to. -/
def alterAt (change : Option Item → Option Item) : Path → Entries → Option Entries
  | [], _ => none
  | [name], entries => alter name change entries
  | name :: path, entries =>
    let step : Option Item → Option Item
      | none => (alterAt change path []).map (.table .implied)
      | some (.table .inline _) => none
      | some (.table kind inner) => (alterAt change path inner).map (.table kind)
      | some (.tables elements) => (alterLast (alterAt change path) elements).map .tables
      | some _ => none
    alter name step entries

/-- Writes values into a table under a header, which nothing but other headers has brought
about before. -/
def openTable (values : List (Path × Item)) : Option Item → Option Item
  | none => (addAll [] values).map (.table .headed)
  | some (.table .implied inner) => (addAll inner values).map (.table .headed)
  | some _ => none

/-- Puts a table with values behind a list of tables under headers. -/
def openElement (values : List (Path × Item)) : Option Item → Option Item
  | none => (addAll [] values).map fun entries => .tables [entries]
  | some (.tables elements) =>
    (addAll [] values).map fun entries => .tables (elements ++ [entries])
  | some _ => none

end Entries
end PluginHost.Toml
