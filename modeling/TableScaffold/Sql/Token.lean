import TableScaffold.Text.Location

/-!
# Tokens of SQL

A token is the reading of a stretch of SQL text.  Only what the table grammar
asks about is told apart: words with their spelling, the punctuation of column
lists, and blanks, which are white space and comments alike.
-/

namespace TableScaffold.Sql

/-- What a stretch of SQL text is. -/
inductive Token where
  /-- white space or a comment -/
  | blank
  /-- a name or keyword; `quoted` if it stands between double quotes, which
  `value` no longer holds -/
  | word (value : Text) (quoted : Bool)
  | leftParen
  | rightParen
  | comma
  | period
  | semicolon
  | leftBracket
  | rightBracket
  /-- a number, a string of any kind or a numbered placeholder -/
  | literal
  /-- an operator or any other character -/
  | symbol
  deriving DecidableEq, Repr

namespace Token

/-- Whether a token is a word, quoted or not. -/
def isWord : Token → Bool
  | word _ _ => true
  | _ => false

/-- Whether a token is the given keyword: an unquoted word, in any ASCII case. -/
def isKeyword (keyword : Text) : Token → Bool
  | word value false => Text.eqIgnoringCase value keyword
  | _ => false

/-- Whether a token is one of the given keywords. -/
def isAnyKeyword (keywords : List Text) (t : Token) : Bool :=
  keywords.any fun k => t.isKeyword k

end Token

/-- A token with the text it was read from. -/
structure Lexeme where
  token : Token
  text : Text
  deriving DecidableEq, Repr

/-- A token with the place of its first character and the place behind its last. -/
structure Placed where
  token : Token
  first : Location
  last : Location
  deriving DecidableEq, Repr

/-- Gives every lexeme of a list its place, when the list begins at `l`. -/
def place (l : Location) : List Lexeme → List Placed
  | [] => []
  | x :: xs => ⟨x.token, l, l.after x.text⟩ :: place (l.after x.text) xs

end TableScaffold.Sql
