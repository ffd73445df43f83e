import TableScaffold.Sql.Fault
import TableScaffold.Text.Letter
import TableScaffold.Text.Numeral

/-!
# Quoted stretches of SQL text

Strings, quoted names, dollar quotes and comments.  Each function is given the
text behind the opening delimiter and answers how many characters belong to the
stretch, its closing delimiter included; `none`, or a fault with the number of
characters before it, if the text ends first.
-/

namespace TableScaffold.Sql

open Text (hexDigit? isHexDigit isOctalDigit numeral? isCodePoint)

/-! ## Strings -/

/-- A string up to its closing quote, with its value.  A doubled quote stands
for one quote. -/
def quotedValue (q : Char) : Text → Option (Text × Nat)
  | [] => none
  | [c] => if c = q then some ([], 1) else none
  | c :: d :: r =>
    if c = q then
      if d = q then (quotedValue q r).map fun p => (q :: p.1, p.2 + 2) else some ([], 1)
    else (quotedValue q (d :: r)).map fun p => (c :: p.1, p.2 + 1)

/-- The length of a string up to its closing quote. -/
def quotedLength (q : Char) (t : Text) : Option Nat := (quotedValue q t).map (·.2)

/-- The length of a string in which a backslash takes the next character with
it. -/
def backslashedLength (q : Char) : Text → Option Nat
  | [] => none
  | [c] => if c = q then some 1 else none
  | c :: d :: r =>
    if c = '\\' then (backslashedLength q r).map (· + 2)
    else if c = q then
      if d = q then (backslashedLength q r).map (· + 2) else some 1
    else (backslashedLength q (d :: r)).map (· + 1)

/-! ## Escape strings -/

/-- The length of a code point escape of `width` characters, the first of which
may be a plus sign, if it stands for a character other than NUL. -/
def codePointLength? (width : Nat) (r : Text) : Option Nat :=
  let digits := r.take width
  if digits.length < width then none
  else
    let unsigned := if digits.head? = some '+' then digits.tail else digits
    match numeral? 16 unsigned with
    | some n => if isCodePoint n && n != 0 then some width else none
    | none => none

/-- Whether the low byte of a number is the code of an ASCII character other than
NUL. -/
def isAsciiByte (n : Nat) : Bool := 0 < n % 256 && n % 256 < 128

/-- The number of characters of `r` that belong to the escape that `e` opens, if
the escape stands for a character other than NUL. -/
def escapeLength? (e : Char) (r : Text) : Option Nat :=
  if e = 'u' then codePointLength? 4 r
  else if e = 'U' then codePointLength? 8 r
  else if e = 'x' then
    let digits := (r.take 2).takeWhile isHexDigit
    match numeral? 16 digits with
    | some n => if digits.isEmpty || isAsciiByte n then some digits.length else none
    | none => none
  else if isOctalDigit e then
    let digits := (r.take 2).takeWhile isOctalDigit
    match numeral? 8 (e :: digits) with
    | some n => if isAsciiByte n then some digits.length else none
    | none => none
  else if e = '\x00' then none
  else some 0

/-- The length of an escape string up to its closing quote. -/
def escapeStringLength : Text → Option Nat
  | [] => none
  | [c] => if c = '\'' then some 1 else none
  | c :: d :: r =>
    if c = '\'' then
      if d = '\'' then (escapeStringLength r).map (· + 2) else some 1
    else if c = '\\' then
      match escapeLength? d r with
      | some n => (escapeStringLength (r.drop n)).map (· + (n + 2))
      | none => none
    else (escapeStringLength (d :: r)).map (· + 1)
termination_by t => t.length
decreasing_by
  all_goals
    simp only [List.length_drop, List.length_cons]
    omega

/-! ## Unicode strings -/

/-- Reads `width` hexadecimal digits after those that make up `value`. -/
def codePoint (width value : Nat) (r : Text) : Except (LexFault × Nat) Nat :=
  match width, r with
  | 0, _ => if isCodePoint value then .ok value else .error (.invalidCodePoint value, 0)
  | _ + 1, [] => .error (.codePointCutShort, 0)
  | width + 1, c :: r =>
    match hexDigit? c with
    | none => .error (.invalidHexDigit c, 1)
    | some d =>
      match codePoint width (value * 16 + d) r with
      | .ok n => .ok n
      | .error (fault, k) => .error (fault, k + 1)

/-- A count or fault that is `n` characters further on. -/
def shiftCount (n : Nat) : Except (LexFault × Nat) Nat → Except (LexFault × Nat) Nat
  | .ok k => .ok (k + n)
  | .error (fault, k) => .error (fault, k + n)

/-- The length of a Unicode string up to its closing quote. -/
def unicodeStringLength : Text → Except (LexFault × Nat) Nat
  | [] => .error (.unterminatedUnicodeString, 0)
  | c :: r =>
    if c = '\'' then
      match r with
      | '\'' :: r => shiftCount 2 (unicodeStringLength r)
      | _ => .ok 1
    else if c = '\\' then
      match r with
      | '\\' :: r => shiftCount 2 (unicodeStringLength r)
      | '+' :: r =>
        match codePoint 6 0 r with
        | .ok _ => shiftCount 8 (unicodeStringLength (r.drop 6))
        | .error (fault, k) => .error (fault, k + 2)
      | r =>
        match codePoint 4 0 r with
        | .ok _ => shiftCount 5 (unicodeStringLength (r.drop 4))
        | .error (fault, k) => .error (fault, k + 1)
    else shiftCount 1 (unicodeStringLength r)
termination_by t => t.length
decreasing_by
  all_goals
    simp only [List.length_drop, List.length_cons]
    omega

/-! ## Dollar quotes -/

/-- The length of a string between double dollars.  It ends at the second of two
neighbouring dollars; `dollar` tells whether the character before is one. -/
def doubleDollarLength (dollar : Bool) : Text → Option Nat
  | [] => none
  | c :: r =>
    if dollar && c = '$' then some 1
    else (doubleDollarLength (c = '$') r).map (· + 1)

/-- The number of characters up to and with the first occurrence of a
delimiter. -/
def throughDelimiter (delimiter : Text) : Text → Option Nat
  | [] => none
  | c :: r =>
    if delimiter.isPrefixOf (c :: r) then some delimiter.length
    else (throughDelimiter delimiter r).map (· + 1)

/-! ## Comments -/

/-- The length of a line comment, the line feed or carriage return that ends it
included. -/
def lineCommentLength : Text → Nat
  | [] => 0
  | c :: r => if c = '\n' || c = '\r' then 1 else lineCommentLength r + 1

/-- The length of a block comment when `depth` further ones are open around
it. -/
def blockCommentLength (depth : Nat) : Text → Option Nat
  | [] => none
  | [_] => none
  | c :: d :: r =>
    if c = '/' && d = '*' then (blockCommentLength (depth + 1) r).map (· + 2)
    else if c = '*' && d = '/' then
      match depth with
      | 0 => some 2
      | depth + 1 => (blockCommentLength depth r).map (· + 2)
    else (blockCommentLength depth (d :: r)).map (· + 1)

end TableScaffold.Sql
