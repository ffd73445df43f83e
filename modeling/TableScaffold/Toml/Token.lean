import TableScaffold.Text.Basic

/-!
# Tokens of a configuration file

Every text falls into tokens; whether a token is well-formed is decided later,
where it is used.  A token knows the offset at which it begins, counted in
characters.

`flatten_lex` says that the tokens hold the text, in order.
-/

namespace TableScaffold.Toml

/-- The kinds of tokens. -/
inductive TokenKind where
  | dot
  | equals
  | comma
  | openBracket
  | closeBracket
  | openBrace
  | closeBrace
  /-- spaces and tabs -/
  | blank
  | newline
  | comment
  /-- a string on one line between apostrophes, perhaps unclosed -/
  | literal
  /-- a string on one line between quotes, perhaps unclosed -/
  | basic
  /-- a string between triple apostrophes, perhaps unclosed -/
  | longLiteral
  /-- a string between triple quotes, perhaps unclosed -/
  | longBasic
  /-- a run of all other characters -/
  | bare
  deriving DecidableEq, Repr

/-- A token, with the offset at which it begins. -/
structure Token where
  kind : TokenKind
  start : Nat
  text : Text
  deriving DecidableEq, Repr

namespace Token

/-- The offset behind a token. -/
def stop (t : Token) : Nat := t.start + t.text.length

/-- Whether a token stands for layout alone. -/
def isLayout (t : Token) : Bool :=
  t.kind = .blank || t.kind = .newline || t.kind = .comment

end Token

/-! ## Where tokens end -/

/-- Spaces and tabs. -/
def isTomlBlank (c : Char) : Bool := c = ' ' || c = '\t'

/-- The characters that end a bare run. -/
def endsBare (c : Char) : Bool :=
  ['.', '=', ',', '[', ']', '\x7b', '\x7d', ' ', '\t', '#', '\r', '\n'].contains c

/-- The number of characters up to the end of a string on one line, behind its
opening apostrophe. -/
def literalLength : Text → Nat
  | [] => 0
  | c :: r => if c = '\'' then 1 else if c = '\n' then 0 else literalLength r + 1

/-- The number of characters up to the end of a string on one line, behind its
opening quote.  A backslash hides a quote or backslash behind it. -/
def basicLength : Text → Nat
  | [] => 0
  | '\\' :: '\\' :: r => basicLength r + 2
  | '\\' :: '"' :: r => basicLength r + 2
  | c :: r => if c = '"' then 1 else if c = '\n' then 0 else basicLength r + 1

/-- The number of quotes, at most two, that still belong to a long string behind
its closing ones. -/
def extraQuotes (q : Char) : Text → Nat
  | [] => 0
  | [c] => if c = q then 1 else 0
  | c :: d :: _ => if c = q then (if d = q then 2 else 1) else 0

/-- The number of characters up to the end of a long string between apostrophes,
behind its opening. -/
def longLiteralLength : Text → Nat
  | [] => 0
  | '\'' :: '\'' :: '\'' :: r => 3 + extraQuotes '\'' r
  | _ :: r => longLiteralLength r + 1

/-- The number of characters up to the end of a long string between quotes, behind
its opening. -/
def longBasicLength : Text → Nat
  | [] => 0
  | '"' :: '"' :: '"' :: r => 3 + extraQuotes '"' r
  | '\\' :: '\\' :: r => longBasicLength r + 2
  | '\\' :: '"' :: r => longBasicLength r + 2
  | _ :: r => longBasicLength r + 1

/-- The length of a run of characters. -/
def runLength (p : Char → Bool) (t : Text) : Nat := (t.takeWhile p).length

/-- The kind of the token that begins with `c`, and the number of characters of the
text behind `c` that belong to it. -/
def tokenAt (c : Char) (r : Text) : TokenKind × Nat :=
  match c with
  | '.' => (.dot, 0)
  | '=' => (.equals, 0)
  | ',' => (.comma, 0)
  | '[' => (.openBracket, 0)
  | ']' => (.closeBracket, 0)
  | '\x7b' => (.openBrace, 0)
  | '\x7d' => (.closeBrace, 0)
  | '\n' => (.newline, 0)
  | '\r' => (.newline, if r.head? = some '\n' then 1 else 0)
  | '#' => (.comment, runLength (fun d => d ≠ '\r' && d ≠ '\n') r)
  | '\'' =>
    match r with
    | '\'' :: '\'' :: s => (.longLiteral, 2 + longLiteralLength s)
    | r => (.literal, literalLength r)
  | '"' =>
    match r with
    | '"' :: '"' :: s => (.longBasic, 2 + longBasicLength s)
    | r => (.basic, basicLength r)
  | c =>
    if isTomlBlank c then (.blank, runLength isTomlBlank r)
    else (.bare, runLength (!endsBare ·) r)

/-- The tokens of a text that begins at the given offset. -/
def lexFrom (start : Nat) : Text → List Token
  | [] => []
  | c :: r =>
    let kind := (tokenAt c r).1
    let length := (tokenAt c r).2
    ⟨kind, start, c :: r.take length⟩
      :: lexFrom (start + 1 + (r.take length).length) (r.drop length)
termination_by t => t.length
decreasing_by simp only [List.length_drop, List.length_cons]; omega

/-- The tokens of a text. -/
def lex (t : Text) : List Token := lexFrom 0 t

theorem flatten_lexFrom (start : Nat) (t : Text) :
    (lexFrom start t).flatMap (·.text) = t := by
  fun_induction lexFrom start t with
  | case1 => rfl
  | case2 start c r kind length ih => rw [List.flatMap_cons, ih]; simp

/-- The tokens hold the text, in order. -/
theorem flatten_lex (t : Text) : (lex t).flatMap (·.text) = t := flatten_lexFrom 0 t

end TableScaffold.Toml
