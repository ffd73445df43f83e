import TableScaffold.Number.Binary64
import TableScaffold.Toml.Numeral

/-!
# Values of a configuration file

The values that a file can hold.  A table knows how it came about, which decides
whether it may be extended later in the file; an entry of a table knows the offset
at which its value begins.
-/

namespace TableScaffold.Toml

/-- How a table came about. -/
inductive TableForm where
  /-- by a header for a table within it -/
  | implied
  /-- by a dotted key -/
  | dotted
  /-- by a header of its own -/
  | headed
  /-- between braces -/
  | inlined
  deriving DecidableEq, Repr

/-- A value. -/
inductive Value where
  | text (t : Text)
  | integer (n : Numeral)
  | float (x : Binary64)
  /-- a number that is greater than every floating-point number -/
  | excess
  | boolean (b : Bool)
  /-- a date, a time or both, in the form in which it is shown -/
  | dateTime (t : Text)
  /-- a list; every item comes with the offset of its value -/
  | list (items : List (Nat × Value))
  /-- the tables that headers with double brackets make, the last one first -/
  | tables (tables : List (List (Text × Nat × Value)))
  | table (form : TableForm) (entries : List (Text × Nat × Value))

/-- The entries of a table: for every key the offset of its value, and the value. -/
abbrev Entries := List (Text × Nat × Value)

/-! ## The order of keys -/

/-- Entries in the order of their keys. -/
def sortByKey (entries : Entries) : Entries := entries.mergeSort fun a b => !(b.1 < a.1)

mutual

/-- The value with the entries of all tables in it in the order of their keys. -/
def Value.sorted : Value → Value
  | .list items => .list (sortedItems items)
  | .tables ts => .tables (sortedTables ts)
  | .table form entries => .table form (sortByKey (sortedEntries entries))
  | v => v

/-- The items of a list, each one sorted. -/
def sortedItems : List (Nat × Value) → List (Nat × Value)
  | [] => []
  | (start, v) :: rest => (start, v.sorted) :: sortedItems rest

/-- Tables, each one sorted. -/
def sortedTables : List (List (Text × Nat × Value)) → List (List (Text × Nat × Value))
  | [] => []
  | entries :: rest => sortByKey (sortedEntries entries) :: sortedTables rest

/-- Entries in their old order, the value of each one sorted. -/
def sortedEntries : List (Text × Nat × Value) → List (Text × Nat × Value)
  | [] => []
  | (key, start, v) :: rest => (key, start, v.sorted) :: sortedEntries rest

end

/-! ## Numbers out of range -/

mutual

/-- The offset of the first number in a value that is out of every range; `start` is
the offset of the value. -/
def Value.unreadable? (start : Nat) : Value → Option Nat
  | .integer n => if n.fits128 then none else some start
  | .excess => some start
  | .list items => unreadableItem? items
  | .tables ts => unreadableTable? ts
  | .table _ entries => unreadablePair? entries
  | _ => none

/-- The offset of the first number out of range in the items of a list. -/
def unreadableItem? : List (Nat × Value) → Option Nat
  | [] => none
  | (start, v) :: rest => (v.unreadable? start).or (unreadableItem? rest)

/-- The offset of the first number out of range in tables, of which the last one
stands first. -/
def unreadableTable? : List (List (Text × Nat × Value)) → Option Nat
  | [] => none
  | entries :: before => (unreadableTable? before).or (unreadablePair? entries)

/-- The offset of the first number out of range in the entries of a table. -/
def unreadablePair? : List (Text × Nat × Value) → Option Nat
  | [] => none
  | (_, start, v) :: rest => (v.unreadable? start).or (unreadablePair? rest)

end

end TableScaffold.Toml
