import TableScaffold.Text.Basic

/-!
# Marks in tags

The signs that stand between the words, texts and numbers of a tag.  `ofText?` takes
the longest mark at the front of a text.
-/

namespace TableScaffold.Template

/-- A sign of one or two characters. -/
inductive Mark where
  | plus
  | minus
  | times
  | slash
  | doubleSlash
  | power
  | modulo
  | bang
  | dot
  | comma
  | colon
  | tilde
  | pipe
  | assign
  | equal
  | unequal
  | greater
  | atLeast
  | less
  | atMost
  | openParenthesis
  | closeParenthesis
  | openBracket
  | closeBracket
  | openBrace
  | closeBrace
  deriving DecidableEq, Repr

namespace Mark

/-- The mark that one character is. -/
def ofChar? (c : Char) : Option Mark :=
  match c with
  | '+' => some plus
  | '-' => some minus
  | '*' => some times
  | '/' => some slash
  | '%' => some modulo
  | '!' => some bang
  | '.' => some dot
  | ',' => some comma
  | ':' => some colon
  | '~' => some tilde
  | '|' => some pipe
  | '=' => some assign
  | '>' => some greater
  | '<' => some less
  | '(' => some openParenthesis
  | ')' => some closeParenthesis
  | '[' => some openBracket
  | ']' => some closeBracket
  | '\x7b' => some openBrace
  | '\x7d' => some closeBrace
  | _ => none

/-- The mark that two characters make. -/
def ofPair? (c d : Char) : Option Mark :=
  match c, d with
  | '/', '/' => some doubleSlash
  | '*', '*' => some power
  | '=', '=' => some equal
  | '!', '=' => some unequal
  | '>', '=' => some atLeast
  | '<', '=' => some atMost
  | _, _ => none

/-- The mark that begins with `c`, and the text behind it. -/
def ofText? (c : Char) (r : Text) : Option (Mark × Text) :=
  match r with
  | [] => (ofChar? c).map (·, [])
  | d :: s =>
    match ofPair? c d with
    | some m => some (m, s)
    | none => (ofChar? c).map (·, d :: s)

/-- A mark as it is written. -/
def spelling : Mark → Text
  | plus => ['+']
  | minus => ['-']
  | times => ['*']
  | slash => ['/']
  | doubleSlash => ['/', '/']
  | power => ['*', '*']
  | modulo => ['%']
  | bang => ['!']
  | dot => ['.']
  | comma => [',']
  | colon => [':']
  | tilde => ['~']
  | pipe => ['|']
  | assign => ['=']
  | equal => ['=', '=']
  | unequal => ['!', '=']
  | greater => ['>']
  | atLeast => ['>', '=']
  | less => ['<']
  | atMost => ['<', '=']
  | openParenthesis => ['(']
  | closeParenthesis => [')']
  | openBracket => ['[']
  | closeBracket => [']']
  | openBrace => ['\x7b']
  | closeBrace => ['\x7d']

/-- Whether a mark stands between two operands. -/
def isOperator (m : Mark) : Bool :=
  [plus, minus, times, slash, doubleSlash, power, modulo, tilde,
    equal, unequal, greater, atLeast, less, atMost].contains m

/-- How many more brackets are open behind a mark than before it. -/
def balance : Mark → Int
  | openParenthesis => 1
  | openBracket => 1
  | openBrace => 1
  | closeParenthesis => -1
  | closeBracket => -1
  | closeBrace => -1
  | _ => 0

/-- What stands behind a mark is shorter than the text that begins with it. -/
theorem ofText?_length {c : Char} {r rest : Text} {m : Mark}
    (h : ofText? c r = some (m, rest)) : rest.length ≤ r.length := by
  unfold ofText? at h
  split at h
  · obtain ⟨a, _, ha⟩ := Option.map_eq_some_iff.1 h
    simp only [Prod.mk.injEq] at ha
    simp [← ha.2]
  · split at h
    · simp only [Option.some.injEq, Prod.mk.injEq] at h
      simp [← h.2]
    · obtain ⟨a, _, ha⟩ := Option.map_eq_some_iff.1 h
      simp only [Prod.mk.injEq] at ha
      simp [← ha.2]

end Mark

end TableScaffold.Template
