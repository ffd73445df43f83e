import TableScaffold.Table.Basic

/-!
# Proto messages

A message has one field for each of its columns, numbered from 1 in the order of
the columns.
-/

namespace TableScaffold.Message

/-- The line of a field. -/
def fieldLine (column : Column) (number : Nat) : Text :=
  "    ".toList ++ column.scalar.protoType ++ [' '] ++ column.name ++ " = ".toList
    ++ Text.ofNat number ++ ";\n".toList

/-- The lines of the fields, the first of which has the given number. -/
def fieldLines (number : Nat) : List Column → Text
  | [] => []
  | column :: columns => fieldLine column number ++ fieldLines (number + 1) columns

/-- The message called `name` with a field for each column. -/
def build (name : Text) (columns : List Column) : Text :=
  "message ".toList ++ name ++ " \x7b\n".toList ++ fieldLines 1 columns ++ ['\x7d']

end TableScaffold.Message
