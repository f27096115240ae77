/-!
# Values of a configuration document

A document is a table: keys with values, in the order in which they were written.  A table
remembers how it came about, because that decides what may still be added to it.

* A table with a header of its own is complete; its header may not come again.
* A table that is only named on the way to another header may still get a header.
* A table that dotted keys made may get further dotted keys, but no header.
* A table written inline is closed.

## Main definitions

* `Toml.Value`, `Toml.Entries` — values, and keys with values.
* `Toml.Origin` — how a table came about.
* `Toml.insert` — add a value under a dotted key.
* `Toml.descend` — change the table that a header path leads to.
* `Toml.openTable`, `Toml.appendTable` — what a header `[a.b]` and a header `[[a.b]]` do.
-/

namespace BulkDelivery.Toml

/-- How a table came about. -/
inductive Origin
  /-- By a header of its own. -/
  | header
  /-- On the way to the header of another table. -/
  | implied
  /-- By a dotted key. -/
  | dotted
  /-- In braces, on one line. -/
  | inlined
  deriving DecidableEq, Repr, Inhabited

/-- A value. -/
inductive Value where
  /-- An integer. -/
  | integer (n : Int)
  /-- A truth value. -/
  | boolean (b : Bool)
  /-- A text. -/
  | text (s : String)
  /-- A number with a fraction or an exponent, infinite, or none, as it was written. -/
  | float (literal : String)
  /-- A date, a time or both, as it was written. -/
  | dateTime (literal : String)
  /-- Values in brackets. -/
  | array (items : List Value)
  /-- A table. -/
  | table (origin : Origin) (entries : List (String × Value))
  /-- The tables that repeated headers made. -/
  | tables (items : List (List (String × Value)))
  deriving Inhabited

/-- Keys with their values. -/
abbrev Entries := List (String × Value)

namespace Entries

/-- The entries with another value for a key that is present. -/
def replace (key : String) (value : Value) (entries : Entries) : Entries :=
  entries.map fun (k, v) => if k = key then (k, value) else (k, v)

end Entries

/-- Change the last element of a list that has one. -/
def changeLast {α : Type} (change : α → Option α) : List α → Option (List α)
  | [] => none
  | [x] => (change x).map ([·])
  | x :: rest => (changeLast change rest).map (x :: ·)

/-- Add a value under a dotted key.  Only tables that dotted keys may reach are passed, and the
table that gets the value must itself have been made by dotted keys. -/
def insert : List String → Value → Entries → Option Entries
  | [], _, _ => none
  | [key], value, entries =>
    match entries.lookup key with
    | none => some (entries ++ [(key, value)])
    | some _ => none
  | key :: path, value, entries =>
    match entries.lookup key with
    | none => (insert path value []).map fun inner => entries ++ [(key, .table .dotted inner)]
    | some (.table .dotted inner) =>
      (insert path value inner).map fun inner => entries.replace key (.table .dotted inner)
    | some (.table .implied inner) =>
      if path.length = 1 then none
      else (insert path value inner).map fun inner => entries.replace key (.table .implied inner)
    | some (.tables items) =>
      if path.length = 1 then none
      else (changeLast (insert path value) items).map fun items => entries.replace key (.tables items)
    | some _ => none

/-- Change the table that a header path leads to.  Of repeated tables it is the last one; a
table that is missing is made, as one that is implied. -/
def descend (change : Entries → Option Entries) : List String → Entries → Option Entries
  | [], entries => change entries
  | key :: path, entries =>
    match entries.lookup key with
    | none => (descend change path []).map fun inner => entries ++ [(key, .table .implied inner)]
    | some (.table .inlined _) => none
    | some (.table origin inner) =>
      (descend change path inner).map fun inner => entries.replace key (.table origin inner)
    | some (.tables items) =>
      (changeLast (descend change path) items).map fun items => entries.replace key (.tables items)
    | some _ => none

/-- Start the table with this name: it is new, or was only implied so far. -/
def startTable (key : String) (entries : Entries) : Option Entries :=
  match entries.lookup key with
  | none => some (entries ++ [(key, .table .header [])])
  | some (.table .implied inner) => some (entries.replace key (.table .header inner))
  | some _ => none

/-- Start one more of the repeated tables with this name. -/
def startRepeated (key : String) (entries : Entries) : Option Entries :=
  match entries.lookup key with
  | none => some (entries ++ [(key, .tables [[]])])
  | some (.tables items) => some (entries.replace key (.tables (items ++ [[]])))
  | some _ => none

/-- What the header `[a.b]` does to a document. -/
def openTable (path : List String) (document : Entries) : Option Entries :=
  match path.getLast? with
  | none => none
  | some key => descend (startTable key) path.dropLast document

/-- What the header `[[a.b]]` does to a document. -/
def appendTable (path : List String) (document : Entries) : Option Entries :=
  match path.getLast? with
  | none => none
  | some key => descend (startRepeated key) path.dropLast document

end BulkDelivery.Toml
