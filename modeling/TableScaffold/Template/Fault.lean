import TableScaffold.Template.Mark

/-!
# Why a template cannot be rendered

A template that is not well-formed is refused before anything is rendered; a
well-formed one fails only where a slot has no value.  Each fault has a line.
-/

namespace TableScaffold.Template

/-- What a tag was read as when it turned out to be wrong. -/
inductive Found where
  | endOfInput
  | slotEnd
  | blockEnd
  | name
  | string
  | integer
  | largeInteger
  | float
  | mark (m : Mark)
  deriving DecidableEq, Repr

/-- The wording of what was found. -/
def Found.display : Found → Text
  | endOfInput => "end of input".toList
  | slotEnd => "end of variable block".toList
  | blockEnd => "end of block".toList
  | name => "identifier".toList
  | string => "string".toList
  | integer => "integer".toList
  | largeInteger => "large integer".toList
  | float => "float".toList
  | mark m => '\x60' :: m.spelling ++ ['\x60']

/-- What would have been right in its place. -/
inductive Wanted where
  | expression
  | slotEnd
  | keyword
  | name
  /-- the word `in` -/
  | membership
  | mark (m : Mark)
  deriving DecidableEq, Repr

/-- The wording of what would have been right. -/
def Wanted.display : Wanted → Text
  | expression => "expression".toList
  | slotEnd => "end of variable block".toList
  | keyword => "keyword".toList
  | name => "identifier".toList
  | membership => "in".toList
  | mark m => '\x60' :: m.spelling ++ ['\x60']

/-- What is wrong with a template. -/
inductive Fault where
  /-- a slot without a value -/
  | undefinedValue
  /-- something that cannot stand where it stands -/
  | unexpected (found : Found)
  /-- something that stands where something else is wanted -/
  | unexpectedInstead (found : Found) (wanted : Wanted)
  /-- a comment that is not closed -/
  | unclosedComment
  /-- a raw block that is not closed -/
  | unclosedRaw
  /-- a quoted text that is not closed -/
  | unclosedString
  /-- a character that begins nothing -/
  | strayCharacter
  /-- an escape in a quoted text that stands for no character -/
  | badEscape
  /-- an underscore at the end of a number -/
  | danglingUnderscore
  /-- an integer with too many digits, or with none -/
  | badInteger
  /-- a number with an exponent that has no digits -/
  | badFloat
  /-- brackets that lie too deep in each other -/
  | tooDeep
  /-- a block with a keyword that begins no statement -/
  | unknownStatement (keyword : Text)
  /-- a block that does not begin with a keyword -/
  | noStatement (found : Found)
  /-- what is wrong with a template that is made of more than slots -/
  | other (message : Text)
  deriving DecidableEq, Repr

/-- The wording of what is wrong with the form of a template. -/
def Fault.detail : Fault → Text
  | undefinedValue => []
  | unexpected found => "unexpected ".toList ++ found.display
  | unexpectedInstead found wanted =>
    "unexpected ".toList ++ found.display ++ ", expected ".toList ++ wanted.display
  | unclosedComment => "unexpected end of comment".toList
  | unclosedRaw => "unexpected end of raw block".toList
  | unclosedString => "unexpected end of string".toList
  | strayCharacter => "unexpected character".toList
  | badEscape => []
  | danglingUnderscore => "'_' may not occur at end of number".toList
  | badInteger => "invalid integer (too large)".toList
  | badFloat => "invalid float".toList
  | tooDeep => "template exceeds maximum recursion limits".toList
  | unknownStatement keyword => "unknown statement ".toList ++ keyword
  | noStatement found => "unknown ".toList ++ found.display ++ ", expected statement".toList
  | other message => message

/-- The wording of a fault. -/
def Fault.message : Fault → Text
  | undefinedValue => "undefined value".toList
  | badEscape => "bad string escape".toList
  | other message => message
  | fault => "syntax error: ".toList ++ fault.detail

/-- A fault of a named template and its line. -/
structure Failure where
  template : Text
  fault : Fault
  line : Nat
  deriving DecidableEq, Repr

/-- The wording of a fault with its place. -/
def Failure.message (f : Failure) : Text :=
  f.fault.message ++ " (in ".toList ++ f.template ++ ":".toList ++ Text.ofNat f.line
    ++ ")".toList

end TableScaffold.Template
