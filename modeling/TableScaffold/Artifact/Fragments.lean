import TableScaffold.Naming
import TableScaffold.Table.Basic

/-!
# Repository fragments

The repository of a table holds SQL statements and the code that fills in their
parameters and scans their rows.  Their varying parts are lists of lines, one for
each column that takes part; all the lists are taken from the same two lists of
columns, `bound` and `regular`, and so line up entry by entry.
-/

namespace TableScaffold

/-- What generated code calls a column. -/
structure Binding where
  column : Text
  role : Role
  /-- the local variable that the column is scanned into -/
  goName : Text
  /-- the exported field of the message -/
  field : Text
  wrapper : ScanWrapper
  deriving DecidableEq, Repr

namespace Binding

/-- What generated code calls a column. -/
def ofColumn (c : Column) : Binding where
  column := c.name
  role := c.role
  goName := Naming.goVariable c.name
  field := Naming.exported c.name
  wrapper := c.scalar.scanWrapper

/-- The column in a list of columns. -/
def columnLine (b : Binding) : Text := "\t\t\t".toList ++ b.column

/-- The argument that fills the column's parameter. -/
def argumentLine (b : Binding) : Text :=
  "\t\treq.Get".toList ++ b.field ++ "(),".toList

/-- The assignment of the column in an update. -/
def assignmentLine (b : Binding) : Text :=
  "\t\t\t".toList ++ b.column ++ " = :".toList ++ b.column ++ [',']

/-- The value of the column's named parameter in an update. -/
def parameterLine (b : Binding) : Text :=
  "\t\t\"".toList ++ b.column ++ "\": req.Get".toList ++ b.field ++ "(),".toList

/-- The declaration of the column's variable. -/
def declarationLine (b : Binding) : Text :=
  "\t\t".toList ++ b.goName ++ [' '] ++ b.wrapper.goType

/-- The column's variable as the target of a scan. -/
def targetLine (b : Binding) : Text := "\t\t&".toList ++ b.goName ++ [',']

/-- The column's field in a response. -/
def responseLine (b : Binding) : Text :=
  "\t\t".toList ++ b.field ++ ": ".toList ++ b.goName ++ ['.'] ++ b.wrapper.accessor ++ [',']

end Binding

namespace Table

/-- What generated code calls the columns, in their order. -/
def bindings (t : Table) : List Binding := t.columns.map Binding.ofColumn

/-- The columns that are neither the identity nor a timestamp. -/
def regular (t : Table) : List Binding := (t.withRole .regular).map Binding.ofColumn

/-- The columns with a parameter in an insert: the identity, then the regular ones. -/
def bound (t : Table) : List Binding := (t.withRole .identity).map Binding.ofColumn ++ t.regular

/-- The column that is set to the current time, if there is one. -/
def stamped (t : Table) : Option Binding :=
  ((t.withRole .updatedAt).map Binding.ofColumn).head?

end Table

/-- The varying parts of a repository. -/
structure Fragments where
  insertColumns : List Text
  insertValues : List Text
  insertArguments : List Text
  selectColumns : List Text
  updateAssignments : List Text
  updateParameters : List Text
  scanDeclarations : List Text
  scanTargets : List Text
  responseFields : List Text
  deriving DecidableEq, Repr

/-- The first `n` positional parameters. -/
def positionalParameters (n : Nat) : List Text :=
  (List.range n).map fun i => '$' :: Text.ofNat (i + 1)

/-- The fragments of a table. -/
def Table.fragments (t : Table) : Fragments where
  insertColumns := t.bound.map (·.columnLine) ++ t.stamped.toList.map (·.columnLine)
  insertValues :=
    positionalParameters t.bound.length ++ t.stamped.toList.map fun _ => "now()".toList
  insertArguments := t.regular.map (·.argumentLine)
  selectColumns := t.bound.map (·.columnLine)
  updateAssignments := t.regular.map (·.assignmentLine)
  updateParameters := t.regular.map (·.parameterLine)
  scanDeclarations := t.regular.map (·.declarationLine)
  scanTargets := t.regular.map (·.targetLine)
  responseFields := t.regular.map (·.responseLine)

end TableScaffold
