import TableScaffold.Text.Blank

/-!
# Selecting tables

Tables are selected by name.  A list of names is written with commas between
them; white space around a name and empty names do not count.
-/

namespace TableScaffold

/-- The names in a list that is written with commas. -/
def namesOfList (list : Text) : List Text :=
  ((Text.splitOn ',' list).map Text.trim).filter (!·.isEmpty)

/-- Which tables to generate. -/
structure TableFilter where
  /-- the only names that are taken, or `none` for all names -/
  included : Option (List Text)
  excluded : List Text
  deriving DecidableEq, Repr

namespace TableFilter

/-- Whether an include list stands for all names. -/
def includesAll (list : Text) : Bool :=
  Text.trim list = ['*'] || (Text.trim list).isEmpty

/-- The filter with the given include and exclude lists, as written. -/
def ofLists (included excluded : Text) : TableFilter where
  included := if includesAll included then none else some (namesOfList included)
  excluded := namesOfList excluded

/-- Whether a filter takes a table. -/
def takes (f : TableFilter) (table : Text) : Bool :=
  (match f.included with
    | none => true
    | some names => names.contains table)
    && !f.excluded.contains table

end TableFilter

end TableScaffold
