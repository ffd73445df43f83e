import TableScaffold.Sql.Fault

/-!
# Why a statement is no table

A statement has no table header, or its column list is malformed at a place, or
its text does not even fall into tokens.
-/

namespace TableScaffold

/-- What a qualified name stands for. -/
inductive NameUse where
  | table
  | referencedTable
  deriving DecidableEq, Repr

/-- The wording of what a name stands for. -/
def NameUse.display : NameUse → Text
  | table => "table name".toList
  | referencedTable => "referenced table".toList

/-- What is wrong with a column list. -/
inductive GrammarFault where
  | expectedName (use : NameUse)
  | expectedNameAfterPeriod (use : NameUse)
  | expectedColumnList
  | unterminatedList
  | expectedSeparator
  | expectedColumnName
  | expectedType (column : Text)
  | expectedExpression
  | expectedGroup
  | unbalancedGroup
  deriving DecidableEq, Repr

/-- The wording of a fault of a column list. -/
def GrammarFault.message : GrammarFault → Text
  | expectedName use => "expected ".toList ++ use.display
  | expectedNameAfterPeriod use => "expected ".toList ++ use.display ++ " after '.'".toList
  | expectedColumnList => "expected '(' after table name".toList
  | unterminatedList => "unterminated column list, expected ')'".toList
  | expectedSeparator => "expected ',' or ')'".toList
  | expectedColumnName => "expected column name".toList
  | expectedType column => "expected type for column \"".toList ++ column ++ "\"".toList
  | expectedExpression => "expected expression after DEFAULT".toList
  | expectedGroup => "expected '('".toList
  | unbalancedGroup => "unbalanced parentheses, expected ')'".toList

/-- Why a statement cannot be read as a table. -/
inductive SchemaError where
  /-- no table header occurs in the statement -/
  | tableNotFound
  /-- the header is followed by something else than a table -/
  | malformed (fault : GrammarFault) (location : Location)
  /-- the statement does not fall into tokens -/
  | unreadable (error : Sql.LexError)
  deriving DecidableEq, Repr

/-- The wording of a schema error. -/
def SchemaError.message : SchemaError → Text
  | tableNotFound => "table name not found".toList
  | malformed fault location =>
    fault.message ++ " at line ".toList ++ Text.ofNat location.line
      ++ ", column ".toList ++ Text.ofNat location.column
  | unreadable error => "failed to tokenize statement: ".toList ++ error.message

end TableScaffold
