import TableScaffold.Table.Schema
import TableScaffold.Text.Printable

/-!
# Listing a schema

The tables of a schema with their columns, types, roles and constraints.
-/

namespace TableScaffold.CommandLine

/-- The line of a column. -/
def columnLine (c : Column) : Text :=
  "    - ".toList ++ c.name ++ [' '] ++ c.sqlType ++ " -> ".toList ++ c.scalar.display
    ++ " [".toList ++ c.role.display ++ "] ".toList
    ++ Text.join [' '] (c.constraints.map Constraint.display) ++ ['\n']

/-- The line for the conventional columns that a table lacks, if it lacks any. -/
def missingLine (t : Table) : Text :=
  if t.missingConventional.isEmpty then []
  else
    "  Missing conventional columns: [".toList
      ++ Text.join ", ".toList (t.missingConventional.map Text.quoted) ++ "]\n".toList

/-- The lines of a table. -/
def tableLines (t : Table) : Text :=
  "Table: ".toList ++ t.name ++ "\n  Columns:\n".toList ++ t.columns.flatMap columnLine
    ++ missingLine t ++ ['\n']

/-- The line behind all tables. -/
def countLine (n : Nat) : Text := "Parsed ".toList ++ Text.ofNat n ++ " tables\n".toList

/-- The lines of a dry run. -/
def dryRunLines (files : List Text) : Text :=
  "Dry run mode - would generate:\n".toList
    ++ files.flatMap fun f => "  ".toList ++ f ++ ['\n']

end TableScaffold.CommandLine
