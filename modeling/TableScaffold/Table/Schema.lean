import TableScaffold.Sql.Statement
import TableScaffold.Table.Grammar

/-!
# Schemas

A schema is a text of table definitions with semicolons between them.  It is read
from the front, and reading stops at the first statement that defines no table;
the tables before it have been read all the same.
-/

namespace TableScaffold

/-- The tables of a schema up to its first fault, and that fault if there is one. -/
structure Schema where
  tables : List Table
  failure : Option SchemaError
  deriving DecidableEq, Repr

namespace Schema

/-- A schema with one more table at its front. -/
def cons (t : Table) (s : Schema) : Schema := { s with tables := t :: s.tables }

/-- Whether a statement without empty rows is no statement at all. -/
def isVoid (statement : Text) : Bool := statement.isEmpty || Sql.isBlankStatement statement

/-- The schema with the given statements. -/
def ofStatements : List Text → Schema
  | [] => ⟨[], none⟩
  | s :: rest =>
    let statement := Text.dropBlankRows s
    if isVoid statement then ofStatements rest
    else
      match Table.parse statement with
      | .error e => ⟨[], some e⟩
      | .ok t => (ofStatements rest).cons t

/-- Reads a schema. -/
def read (sql : Text) : Schema :=
  match Sql.statements sql with
  | .error e => ⟨[], some (.unreadable e)⟩
  | .ok statements => ofStatements statements

end Schema

end TableScaffold
