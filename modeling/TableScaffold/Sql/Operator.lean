import TableScaffold.Text.Blank

/-!
# Operators of SQL

How many characters an operator takes.  Some operators are fixed; others swallow
every operator character that follows, so that `<--` is one operator and no
comment begins in it; a few beginnings are operators only if something follows;
and two operators take one more character, whatever it is.
-/

namespace TableScaffold.Sql

/-- How an operator goes on behind its own characters. -/
inductive OperatorKind where
  /-- it ends there -/
  | fixed
  /-- it takes all operator characters that follow -/
  | greedy
  /-- it takes all operator characters that follow, of which there must be one -/
  | unfinished
  /-- it takes the next character, whatever it is -/
  | swallowing
  deriving DecidableEq, Repr

/-- The characters that a greedy operator swallows. -/
def isOperatorChar (c : Char) : Bool :=
  ['+', '-', '*', '/', '<', '>', '=', '~', '!', '@', '#', '%', '^', '&', '|', '\x60',
    '?'].contains c

/-- The operators of more than one character and those that go on behind their
first one.  Of two that begin a text alike the longer one stands first. -/
def operators : List (Text × OperatorKind) :=
  [("->>", .greedy), ("->", .greedy), ("-", .greedy),
    ("%", .greedy),
    ("|/", .greedy), ("||/", .greedy), ("||", .greedy), ("|&>", .greedy), ("|&", .unfinished),
    ("|>>", .greedy), ("|>", .unfinished), ("|", .greedy),
    ("=>", .fixed), ("==", .fixed),
    ("!=", .fixed), ("!!", .fixed), ("!~*", .fixed), ("!~~*", .fixed), ("!~~", .fixed),
    ("!~", .fixed),
    ("<=>", .greedy), ("<=", .greedy), ("<|", .greedy), ("<>", .greedy), ("<<|", .greedy),
    ("<<", .greedy), ("<->", .greedy), ("<-", .unfinished), ("<^", .greedy), ("<@", .greedy),
    ("<", .greedy),
    (">=", .greedy), (">>", .greedy), (">^", .greedy), (">", .greedy),
    ("::", .fixed), (":=", .fixed),
    ("&>", .swallowing), ("&<|", .fixed), ("&<", .greedy), ("&&", .greedy), ("&", .greedy),
    ("^@", .fixed),
    ("~*", .greedy), ("~=", .greedy), ("~~*", .greedy), ("~~", .greedy), ("~", .greedy),
    ("#-", .greedy), ("#>>", .greedy), ("#>", .greedy), ("##", .greedy), ("#", .greedy),
    ("@@", .fixed), ("@-@", .fixed), ("@-", .unfinished), ("@>", .fixed), ("@?", .fixed),
    ("?||", .fixed), ("?|", .fixed), ("?&", .fixed), ("?-|", .fixed), ("?-", .fixed),
    ("?#", .fixed), ("?", .swallowing)].map fun o => (o.1.toList, o.2)

/-- The operator at the front of a text, if it is one of the table. -/
def operatorAt? (t : Text) : Option (Text × OperatorKind) :=
  operators.find? fun o => o.1.isPrefixOf t

/-- The number of operator characters at the beginning of a text. -/
def operatorTail (r : Text) : Nat := (r.takeWhile isOperatorChar).length

end TableScaffold.Sql
