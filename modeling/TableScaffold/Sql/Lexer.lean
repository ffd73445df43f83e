import TableScaffold.Sql.Token
import TableScaffold.Sql.Quoted
import TableScaffold.Sql.Operator

/-!
# Reading SQL text

`readToken` reads one token from its first character and the text behind it, and
answers how many further characters belong to it.  `lexemes` does so to the end
of the text, so the texts of the lexemes always make up the whole text
(`flatten_lexemes`).  `tokens` gives each token its place.
-/

namespace TableScaffold.Sql

open Text (isHexDigit)

/-- A token with the number of characters behind its first one, or a fault with
the number of characters of the token that come before it. -/
abbrev Reading := Except (LexFault × Nat) (Token × Nat)

/-! ## Words -/

/-- A letter, an underscore or any character beyond ASCII begins a name. -/
def isNameStart (c : Char) : Bool := c.isAlpha || c = '_' || 127 < c.toNat

/-- Names go on with digits and dollars too. -/
def isNamePart (c : Char) : Bool := isNameStart c || c.isDigit || c = '$'

/-- An unquoted word that begins with `c`. -/
def readName (c : Char) (r : Text) : Reading :=
  let more := r.takeWhile isNamePart
  .ok (.word (c :: more) false, more.length)

/-! ## Strings with a letter in front -/

/-- A literal of the given length behind `before` characters that are already
read, or a fault at `place`. -/
def literalOf (fault : LexFault) (place before : Nat) : Option Nat → Reading
  | some n => .ok (.literal, before + n)
  | none => .error (fault, place)

/-- A word, unless it is one of the letters that make a string of another kind
of the quotes behind them. -/
def readWord (c : Char) (r : Text) : Reading :=
  match c, r with
  | 'b', '\'' :: r => literalOf .unterminatedString 1 1 (quotedLength '\'' r)
  | 'B', '\'' :: r => literalOf .unterminatedString 1 1 (quotedLength '\'' r)
  | 'b', '"' :: r => literalOf .unterminatedString 1 1 (quotedLength '"' r)
  | 'B', '"' :: r => literalOf .unterminatedString 1 1 (quotedLength '"' r)
  | 'n', '\'' :: r => literalOf .unterminatedString 1 1 (quotedLength '\'' r)
  | 'N', '\'' :: r => literalOf .unterminatedString 1 1 (quotedLength '\'' r)
  | 'x', '\'' :: r => literalOf .unterminatedString 1 1 (backslashedLength '\'' r)
  | 'X', '\'' :: r => literalOf .unterminatedString 1 1 (backslashedLength '\'' r)
  | 'e', '\'' :: r => literalOf .unterminatedEscapeString 0 1 (escapeStringLength r)
  | 'E', '\'' :: r => literalOf .unterminatedEscapeString 0 1 (escapeStringLength r)
  | 'u', '&' :: '\'' :: r => readUnicodeString r
  | 'U', '&' :: '\'' :: r => readUnicodeString r
  | c, r => readName c r
where
  /-- A Unicode string, three characters of which are already read. -/
  readUnicodeString (r : Text) : Reading :=
    match unicodeStringLength r with
    | .ok n => .ok (.literal, n + 2)
    | .error (fault, k) => .error (fault, k + 3)

/-! ## Dollars, numbers and operators -/

/-- A character of the tag between two dollars. -/
def isTagChar (c : Char) : Bool := Text.isAlphanumeric c || c = '_'

/-- What a dollar begins: a string between double or tagged dollars, or a
placeholder. -/
def readDollar (r : Text) : Reading :=
  match r with
  | '$' :: body =>
    literalOf .unclosedDollars (body.length + 2) 1 (doubleDollarLength false body)
  | _ =>
    let tag := r.takeWhile isTagChar
    match r.drop tag.length with
    | '$' :: body =>
      literalOf .unclosedTaggedDollars (r.length + 1) (tag.length + 1)
        (throughDelimiter ('$' :: tag ++ ['$']) body)
    | _ => .ok (.literal, tag.length)

/-- The number of digits at the beginning of a text, where an underscore before a
hexadecimal digit counts as a digit. -/
def digitRun (isDigit : Char → Bool) : Text → Nat
  | [] => 0
  | c :: r =>
    if isDigit c || (c = '_' && (r.head?.map isHexDigit).getD false) then
      digitRun isDigit r + 1
    else 0

/-- The length of an exponent, if a digit follows its letter and sign. -/
def exponentLength (t : Text) : Nat :=
  match t with
  | e :: r =>
    if e = 'e' || e = 'E' then
      let sign := if r.head? = some '+' || r.head? = some '-' then 1 else 0
      let digits := ((r.drop sign).takeWhile Char.isDigit).length
      if digits = 0 then 0 else 1 + sign + digits
    else 0
  | [] => 0

/-- A number or a period.  `t` is the text from its first character on. -/
def readNumber (afterWord : Bool) (t : Text) : Reading :=
  if t.head? = some '.' && t.tail.head? = some '_' then
    if afterWord then .ok (.period, 0) else .error (.strayUnderscore, 0)
  else
    let whole := digitRun Char.isDigit t
    let rest := t.drop whole
    if t.take whole = ['0'] && rest.head? = some 'x' then
      .ok (.literal, whole + digitRun isHexDigit rest.tail)
    else
      let point := if rest.head? = some '.' then 1 else 0
      let fraction := digitRun Char.isDigit (rest.drop point)
      if whole = 0 && fraction = 0 then .ok (.period, 0)
      else
        let mantissa := whole + point + fraction
        let exponent := exponentLength (t.drop mantissa)
        let long := if (t.drop (mantissa + exponent)).head? = some 'L' then 1 else 0
        .ok (.literal, mantissa + exponent + long - 1)

/-- An operator that begins with `c`.  A character that begins none of the table
stands for itself. -/
def readOperator (c : Char) (r : Text) : Reading :=
  match operatorAt? (c :: r) with
  | none => .ok (.symbol, 0)
  | some (operator, kind) =>
    let more := operator.length - 1
    let behind := r.drop more
    match kind with
    | .fixed => .ok (.symbol, more)
    | .greedy => .ok (.symbol, more + operatorTail behind)
    | .swallowing => .ok (.symbol, more + min 1 behind.length)
    | .unfinished =>
      if operatorTail behind = 0 then .error (.incompleteOperator operator, more + 1)
      else .ok (.symbol, more + operatorTail behind)

/-! ## One token -/

/-- The token that begins with `c`, where `r` is the text behind `c` and
`afterWord` tells whether the token before is a word. -/
def readToken (afterWord : Bool) (c : Char) (r : Text) : Reading :=
  match c, r with
  | ' ', _ => .ok (.blank, 0)
  | '\t', _ => .ok (.blank, 0)
  | '\n', _ => .ok (.blank, 0)
  | '\r', '\n' :: _ => .ok (.blank, 1)
  | '\r', _ => .ok (.blank, 0)
  | '(', _ => .ok (.leftParen, 0)
  | ')', _ => .ok (.rightParen, 0)
  | ',', _ => .ok (.comma, 0)
  | ';', _ => .ok (.semicolon, 0)
  | '[', _ => .ok (.leftBracket, 0)
  | ']', _ => .ok (.rightBracket, 0)
  | '\'', r => literalOf .unterminatedString 0 0 (quotedLength '\'' r)
  | '"', r =>
    match quotedValue '"' r with
    | some (value, n) => .ok (.word value true, n)
    | none => .error (.unclosedName, 0)
  | '-', '-' :: r => .ok (.blank, lineCommentLength r + 1)
  | '/', '*' :: r =>
    match blockCommentLength 0 r with
    | some n => .ok (.blank, n + 1)
    | none => .error (.unclosedComment, r.length + 2)
  | '$', r => readDollar r
  | c, r =>
    if c.isDigit || c = '.' then readNumber afterWord (c :: r)
    else if isNameStart c then readWord c r
    else if Text.isBlank c then .ok (.blank, 0)
    else readOperator c r

/-! ## All tokens -/

/-- The lexemes of a text, or a fault with the number of characters before it.
`afterWord` tells whether the token before the text is a word. -/
def lexemes (afterWord : Bool) : Text → Except (LexFault × Nat) (List Lexeme)
  | [] => .ok []
  | c :: r =>
    match readToken afterWord c r with
    | .error fault => .error fault
    | .ok (token, n) =>
      match lexemes token.isWord (r.drop n) with
      | .error (fault, k) => .error (fault, k + n + 1)
      | .ok xs => .ok (⟨token, c :: r.take n⟩ :: xs)
termination_by t => t.length
decreasing_by simp only [List.length_drop, List.length_cons]; omega

/-- The lexemes of a whole text, or the place of its first fault. -/
def lex (t : Text) : Except LexError (List Lexeme) :=
  match lexemes false t with
  | .ok xs => .ok xs
  | .error (fault, k) => .error ⟨fault, Location.start.after (t.take k)⟩

/-- The tokens of a text with their places. -/
def tokens (t : Text) : Except LexError (List Placed) :=
  (lex t).map (place Location.start)

/-- The texts of the lexemes make up the text they were read from. -/
theorem flatten_lexemes {afterWord : Bool} {t : Text} {xs : List Lexeme}
    (h : lexemes afterWord t = .ok xs) : (xs.map Lexeme.text).flatten = t := by
  fun_induction lexemes afterWord t generalizing xs with
  | case1 => simp_all
  | case2 => simp at h
  | case3 => simp at h
  | case4 afterWord c r token n _ ys _ ih =>
    obtain rfl : _ = xs := by simpa using h
    simp_all

/-- The texts of the lexemes of a whole text make it up. -/
theorem flatten_lex {t : Text} {xs : List Lexeme} (h : lex t = .ok xs) :
    (xs.map Lexeme.text).flatten = t := by
  unfold lex at h
  split at h
  · next ys hys =>
    obtain rfl : ys = xs := by simpa using h
    exact flatten_lexemes hys
  · simp at h

end TableScaffold.Sql
