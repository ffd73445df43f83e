import TableScaffold.Sql.Lexer

/-!
# Statements of a schema

A schema is cut into statements at its semicolons, as the lexer sees them: a
semicolon within quotes or a comment does not count.  What follows the last
semicolon is a statement too, so a schema has at least one statement.
-/

namespace TableScaffold.Sql

/-- The pieces of a text from the byte offset `first` on, between the given
tokens. -/
def piecesBetween (t : Text) (first : Nat) : List Placed → List Text
  | [] => [Text.dropBytes first t]
  | cut :: cuts =>
    Text.slice t first (Text.byteOffset t cut.first)
      :: piecesBetween t (Text.byteOffset t cut.last) cuts

/-- The statements of a schema. -/
def statements (t : Text) : Except LexError (List Text) :=
  (tokens t).map fun ts => piecesBetween t 0 (ts.filter (·.token = .semicolon))

/-- Whether a statement holds nothing but white space and comments.  A statement
that cannot be read holds something. -/
def isBlankStatement (t : Text) : Bool :=
  match lex t with
  | .ok xs => xs.all (·.token = .blank)
  | .error _ => false

end TableScaffold.Sql
