import TableScaffold.Table.Grammar
import TableScaffold.Proofs.Sql.Part
import TableScaffold.Proofs.Sql.Statement

set_option autoImplicit false

/-!
# Table definitions in writing

A definition is a table with all that its text says beyond the table: the letter
case of its keywords, the qualifiers of its name, the lengths of its types and
the names of its constraints.  `Definition.print` is that text, one column on a
row, and `Definition.table` is the table.

The parts carry what makes their text readable: a name stands on one row, a group
and an expression fall into tokens with balanced parentheses, and no comma or
keyword ends an expression before its end.
-/

namespace TableScaffold.Written

open Sql (Lexeme Token)

/-! ## Tokens -/

/-- The tokens of lexemes that are no blanks. -/
def solidTokens (xs : List Lexeme) : List Token := (xs.map Lexeme.token).filter (· ≠ .blank)

/-- The number of groups that are open behind tokens of which `depth` are open in
front, or `none` if one of them closes a group that is not open. -/
def parenDepth (depth : Nat) : List Token → Option Nat
  | [] => some depth
  | .leftParen :: ts => parenDepth (depth + 1) ts
  | .rightParen :: ts =>
    match depth with
    | 0 => none
    | depth + 1 => parenDepth depth ts
  | _ :: ts => parenDepth depth ts

/-! ## Parts of a column -/

/-- A keyword in some letter case. -/
structure Spelling (keyword : String) where
  text : Text
  spells : Text.eqIgnoringCase text keyword.toList = true

/-- A name that is written in quotes. -/
structure Name where
  value : Text
  singleRow : '\n' ∉ value

/-- A word of a type, which is not taken for the beginning of a constraint. -/
structure TypeWord where
  text : Text
  bare : Sql.IsBareWord text
  free : (Token.word text false).isAnyKeyword Grammar.constraintKeywords = false

/-- A group in parentheses, such as a length or a precision. -/
structure Group where
  text : Text
  inner : List Lexeme
  reads : Sql.lexemes false text = .ok ((⟨.leftParen, ['(']⟩ :: inner) ++ [⟨.rightParen, [')']⟩])
  balanced : parenDepth 0 (solidTokens inner) = some 0
  singleRow : '\n' ∉ text

/-- The expression of a default value. -/
structure Expression where
  text : Text
  lexemes : List Lexeme
  reads : Sql.lexemes false text = .ok lexemes
  ne_nil : lexemes ≠ []
  firstSolid : ∀ l ∈ lexemes.head?, l.token ≠ .blank
  lastSolid : ∀ l ∈ lexemes.getLast?, l.token ≠ .blank
  firstVisible : ∀ c ∈ text.head?, Text.isBlank c = false
  lastVisible : ∀ c ∈ text.getLast?, Text.isBlank c = false
  singleRow : '\n' ∉ text
  balanced : parenDepth 0 (solidTokens lexemes) = some 0
  /-- its commas stand within parentheses -/
  commas : ∀ before behind, solidTokens lexemes = before ++ .comma :: behind →
    parenDepth 0 before ≠ some 0
  /-- behind its first token the keywords of constraints stand within parentheses -/
  keywords : ∀ before token behind, solidTokens lexemes = before ++ token :: behind →
    before ≠ [] → parenDepth 0 before = some 0 →
    token.isAnyKeyword Grammar.constraintKeywords = false

/-- An expression that does not take the character behind it. -/
def Expression.Settled (e : Expression) : Prop := ¬ Sql.EndsInOpenOperator e.text

/-! ## Constraints -/

/-- What a constraint says. -/
inductive Clause where
  | notNull (first : Spelling "NOT") (second : Spelling "NULL")
  | null (keyword : Spelling "NULL")
  | primaryKey (first : Spelling "PRIMARY") (second : Spelling "KEY")
  | unique (keyword : Spelling "UNIQUE")
  | default (keyword : Spelling "DEFAULT") (expression : Expression)
  | references (keyword : Spelling "REFERENCES") (qualifiers : List Name) (table : Name)
      (column : Option Name)

namespace Clause

/-- The text of a clause. -/
def print : Clause → Text
  | notNull first second => first.text ++ ' ' :: second.text
  | null keyword => keyword.text
  | primaryKey first second => first.text ++ ' ' :: second.text
  | unique keyword => keyword.text
  | default keyword expression => keyword.text ++ ' ' :: expression.text
  | references keyword qualifiers table column =>
    keyword.text ++ ' ' :: Sql.qualify (qualifiers.map Name.value) table.value
      ++ column.elim [] fun c => '(' :: Sql.quote c.value ++ [')']

/-- A clause that does not take the character behind it. -/
def Settled : Clause → Prop
  | default _ expression => expression.Settled
  | _ => True

instance : (c : Clause) → Decidable c.Settled
  | default _ expression => inferInstanceAs (Decidable (¬ Sql.EndsInOpenOperator expression.text))
  | notNull _ _ | null _ | primaryKey _ _ | unique _ | references _ _ _ _ => .isTrue trivial

/-- The constraint that a clause stands for. -/
def constraint : Clause → Constraint
  | notNull _ _ => .notNull
  | null _ => .null
  | primaryKey _ _ => .primaryKey
  | unique _ => .unique
  | default _ expression => .default expression.text
  | references _ _ table column => .references table.value (column.map Name.value)

end Clause

/-- A constraint of a column, with or without a name. -/
structure ConstraintEntry where
  name : Option (Spelling "CONSTRAINT" × Name)
  clause : Clause

/-- The text of a constraint with the space before it. -/
def ConstraintEntry.print (c : ConstraintEntry) : Text :=
  (c.name.elim [] fun n => ' ' :: n.1.text ++ ' ' :: Sql.quote n.2.value) ++ ' ' :: c.clause.print

/-! ## Columns and tables -/

/-- A column: its name, its type and its constraints.  A group may stand behind
the first words of the type, with more words behind it. -/
structure ColumnEntry where
  name : Name
  words : List TypeWord
  hasType : words ≠ []
  group : Option (Group × List TypeWord)
  constraints : List ConstraintEntry

namespace ColumnEntry

/-- The text of words with the spaces before them. -/
def printWords (words : List TypeWord) : Text := words.flatMap fun w => ' ' :: w.text

/-- The text of a column's type. -/
def printType (c : ColumnEntry) : Text :=
  printWords c.words ++ c.group.elim [] fun g => g.1.text ++ printWords g.2

/-- The text of a column. -/
def print (c : ColumnEntry) : Text :=
  Sql.quote c.name.value ++ c.printType ++ c.constraints.flatMap ConstraintEntry.print

/-- No default value of the column takes the character behind it. -/
def Settled (c : ColumnEntry) : Prop := ∀ k ∈ c.constraints, k.clause.Settled

instance (c : ColumnEntry) : Decidable c.Settled :=
  inferInstanceAs (Decidable (∀ k ∈ c.constraints, _))

/-- The words of a column's type. -/
def typeWords (c : ColumnEntry) : List Text :=
  (c.words ++ c.group.elim [] fun g => g.2).map TypeWord.text

/-- The column that is written. -/
def column (c : ColumnEntry) : Column where
  name := c.name.value
  sqlType := Text.join [' '] c.typeWords
  constraints := c.constraints.map fun k => k.clause.constraint

end ColumnEntry

/-- A table definition. -/
structure Definition where
  createWord : Spelling "CREATE"
  tableWord : Spelling "TABLE"
  ifWord : Spelling "IF"
  notWord : Spelling "NOT"
  existsWord : Spelling "EXISTS"
  qualifiers : List Name
  name : Name
  columns : List ColumnEntry

namespace Definition

/-- The first row, with the opening parenthesis. -/
def header (d : Definition) : Text :=
  d.createWord.text ++ ' ' :: d.tableWord.text ++ ' ' :: d.ifWord.text ++ ' ' :: d.notWord.text
    ++ ' ' :: d.existsWord.text ++ ' ' :: Sql.qualify (d.qualifiers.map Name.value) d.name.value
    ++ [' ', '(']

/-- The rows of the columns, with commas between them. -/
def rows : List ColumnEntry → List Text
  | [] => []
  | [c] => [c.print]
  | c :: c' :: cs => (c.print ++ [',']) :: rows (c' :: cs)

/-- The text of a definition. -/
def print (d : Definition) : Text := Text.join ['\n'] (d.header :: (rows d.columns ++ [[')']]))

/-- No default value takes the character behind it. -/
def Settled (d : Definition) : Prop := ∀ c ∈ d.columns, c.Settled

instance (d : Definition) : Decidable d.Settled :=
  inferInstanceAs (Decidable (∀ c ∈ d.columns, _))

/-- The table that is defined. -/
def toTable (d : Definition) : Table where
  name := d.name.value
  columns := d.columns.map ColumnEntry.column

end Definition

end TableScaffold.Written
