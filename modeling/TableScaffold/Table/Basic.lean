import TableScaffold.Table.ScalarType

/-!
# Tables

A table is its name and its columns in order.  A column's name alone decides its
role in generated code; its constraints are kept for listings.
-/

namespace TableScaffold

/-- A constraint of a column. -/
inductive Constraint where
  | notNull
  | null
  | primaryKey
  | unique
  /-- a default value, as written -/
  | default (expression : Text)
  | references (table : Text) (column : Option Text)
  deriving DecidableEq, Repr

namespace Constraint

/-- A constraint as a listing shows it. -/
def display : Constraint → Text
  | notNull => "NOT NULL".toList
  | null => "NULL".toList
  | primaryKey => "PRIMARY KEY".toList
  | unique => "UNIQUE".toList
  | default expression => "DEFAULT ".toList ++ expression
  | references table none => "REFERENCES ".toList ++ table
  | references table (some column) =>
    "REFERENCES ".toList ++ table ++ ['('] ++ column ++ [')']

end Constraint

/-- How a column takes part in generated statements. -/
inductive Role where
  /-- the lookup key, bound to a generated value on insert -/
  | identity
  /-- set by the server, never written -/
  | createdAt
  /-- set to the current time on insert and update -/
  | updatedAt
  | regular
  deriving DecidableEq, Repr

namespace Role

/-- The name of the identity column. -/
def identityName : Text := "id".toList

/-- The name of the creation timestamp. -/
def createdAtName : Text := "created_at".toList

/-- The name of the timestamp of the last update. -/
def updatedAtName : Text := "updated_at".toList

/-- The role of a column with the given name. -/
def ofName (name : Text) : Role :=
  if name = identityName then identity
  else if name = createdAtName then createdAt
  else if name = updatedAtName then updatedAt
  else regular

/-- A role as a listing shows it. -/
def display : Role → Text
  | identity => "Identity".toList
  | createdAt => "CreatedAt".toList
  | updatedAt => "UpdatedAt".toList
  | regular => "Regular".toList

end Role

/-- A column of a table. -/
structure Column where
  name : Text
  /-- the type as written, without length or precision -/
  sqlType : Text
  constraints : List Constraint := []
  deriving DecidableEq, Repr

namespace Column

/-- The scalar type of a column. -/
def scalar (c : Column) : ScalarType := ScalarType.ofSql c.sqlType

/-- The role of a column. -/
def role (c : Column) : Role := Role.ofName c.name

/-- Whether a column is a primary key. -/
def isPrimaryKey (c : Column) : Bool := c.constraints.contains .primaryKey

/-- Whether a column takes no null: it says so, or it is a primary key. -/
def isNotNull (c : Column) : Bool := c.constraints.contains .notNull || c.isPrimaryKey

/-- The first default value of a column. -/
def default? (c : Column) : Option Text :=
  c.constraints.findSome? fun
    | .default expression => some expression
    | _ => none

end Column

/-- A table: its name, without quotes or schema, and its columns in order. -/
structure Table where
  name : Text
  columns : List Column
  deriving DecidableEq, Repr

namespace Table

/-- The columns with a role, in order. -/
def withRole (t : Table) (r : Role) : List Column := t.columns.filter (·.role = r)

/-- The names of the conventional columns that a table lacks. -/
def missingConventional (t : Table) : List Text :=
  [Role.identityName, Role.createdAtName, Role.updatedAtName].filter fun name =>
    !t.columns.any (·.name = name)

end Table

end TableScaffold
