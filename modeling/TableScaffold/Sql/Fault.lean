import TableScaffold.Text.Location

/-!
# Why SQL text cannot be read

The lexer is total: a text either falls into lexemes or has one of these faults
at a location.
-/

namespace TableScaffold.Sql

/-- What is wrong with a stretch of SQL text. -/
inductive LexFault where
  /-- a string without its closing quote -/
  | unterminatedString
  /-- an escape string without its closing quote, or with an escape that stands
  for no character -/
  | unterminatedEscapeString
  /-- a Unicode string without its closing quote -/
  | unterminatedUnicodeString
  /-- a character of an escaped code point that is not a hexadecimal digit -/
  | invalidHexDigit (c : Char)
  /-- a text that ends within an escaped code point -/
  | codePointCutShort
  /-- an escaped code point that is no character -/
  | invalidCodePoint (n : Nat)
  /-- a quoted name without its closing quote -/
  | unclosedName
  /-- a comment that is not closed -/
  | unclosedComment
  /-- a string between double dollars that is not closed -/
  | unclosedDollars
  /-- a string between tagged dollars that is not closed -/
  | unclosedTaggedDollars
  /-- a period before an underscore that does not follow a word -/
  | strayUnderscore
  /-- the beginning of an operator with nothing behind it -/
  | incompleteOperator (read : Text)
  deriving DecidableEq, Repr

namespace LexFault

/-- The wording of a fault. -/
def message : LexFault → Text
  | unterminatedString => "Unterminated string literal".toList
  | unterminatedEscapeString => "Unterminated encoded string literal".toList
  | unterminatedUnicodeString => "Unterminated unicode encoded string literal".toList
  | invalidHexDigit c =>
    "Invalid hex digit in escaped unicode string: ".toList ++ [c]
  | codePointCutShort =>
    "Unexpected EOF while parsing hex digit in escaped unicode string.".toList
  | invalidCodePoint n => "Invalid unicode character: ".toList ++ Nat.toDigits 16 n
  | unclosedName => "Expected close delimiter '\"' before EOF.".toList
  | unclosedComment => "Unexpected EOF while in a multi-line comment".toList
  | unclosedDollars => "Unterminated dollar-quoted string".toList
  | unclosedTaggedDollars => "Unterminated dollar-quoted, expected $".toList
  | strayUnderscore => "Unexpected character '_'".toList
  | incompleteOperator read =>
    "Expected a valid binary operator after '".toList ++ read ++ "'".toList

end LexFault

/-- A fault and where it is. -/
structure LexError where
  fault : LexFault
  location : Location
  deriving DecidableEq, Repr

/-- The wording of a fault with its place. -/
def LexError.message (e : LexError) : Text :=
  e.fault.message ++ " at Line: ".toList ++ Text.ofNat e.location.line
    ++ ", Column: ".toList ++ Text.ofNat e.location.column

end TableScaffold.Sql
