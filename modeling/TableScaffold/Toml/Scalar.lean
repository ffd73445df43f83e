import TableScaffold.Toml.DateTime
import TableScaffold.Toml.Syntax
import TableScaffold.Toml.Value

/-!
# Keys and scalars

A key or a scalar as written is read as a text, a number, a truth value or a date.
Of a fault, its offset is told.
-/

namespace TableScaffold.Toml

/-! ## Strings -/

/-- The character that a short escape stands for. -/
def simpleEscape? (c : Char) : Option Char :=
  match c with
  | 'b' => some '\x08'
  | 't' => some '\t'
  | 'n' => some '\n'
  | 'f' => some '\x0c'
  | 'r' => some '\r'
  | 'e' => some '\x1b'
  | '"' => some '"'
  | '\\' => some '\\'
  | _ => none

/-- Whether a string may hold a character as it stands. -/
def isStringCharacter (c : Char) : Bool := c = '\t' || (32 ≤ c.toNat && c.toNat ≠ 127)

/-- The character that `n` hexadecimal digits at the front of a text stand for.
`start` is the offset of the text. -/
def codePoint (n start : Nat) (t : Text) : Except Nat Char :=
  let digits := (t.take n).takeWhile Text.isHexDigit
  if digits.length ≠ n then .error (start + digits.length)
  else
    match Text.numeral? 16 digits with
    | some v => if Text.isCodePoint v then .ok (Char.ofNat v) else .error start
    | none => .error start

/-- The number of hexadecimal digits behind a letter that begins an escape by code
point. -/
def escapeWidth? (c : Char) : Option Nat :=
  match c with
  | 'x' => some 2
  | 'u' => some 4
  | 'U' => some 8
  | _ => none

/-- Puts a character in front of a text that was read. -/
def consText (c : Char) (r : Except Nat Text) : Except Nat Text := r.map (c :: ·)

/-- White space that a backslash at the end of a line hides. -/
def isHidden (c : Char) : Bool := isTomlBlank c || c = '\n' || c = '\r'

/-- The offset behind the first carriage return that no line feed follows; `start` is
the offset of the text. -/
def loneReturn? (start : Nat) : Text → Option Nat
  | [] => none
  | c :: r =>
    if c = '\r' && r.head? ≠ some '\n' then some (start + 1) else loneReturn? (start + 1) r

/-- Checks the white space at the front of a text, which a backslash hides: blanks up
to a line end, and any blanks and line ends behind it.  `start` is the offset of the
text. -/
def checkHidden (start : Nat) (t : Text) : Except Nat Unit :=
  match t.dropWhile isTomlBlank with
  | [] => .error (start + t.length)
  | c :: r =>
    if c ≠ '\n' && c ≠ '\r' then .error (start + (t.length - (r.length + 1)))
    else
      -- a carriage return in front of what is not hidden stands alone
      let hidden := (c :: r).takeWhile isHidden
      match loneReturn? (start + (t.length - (r.length + 1))) hidden with
      | some offset => .error offset
      | none => .ok ()

/-- Accepts a character that stands for itself, of a text that begins at `start`;
`r` is the text behind it.  `long` tells whether line ends may stand in the text. -/
def checkPlain (long : Bool) (start : Nat) (c : Char) (r : Text) : Except Nat Unit :=
  if isStringCharacter c || (long && c = '\n') then .ok ()
  else if long && c = '\r' then
    if r.head? = some '\n' then .ok () else .error (start + 1)
  else .error start

/-- The text between quotes, `start` being its offset.  `long` tells whether line
ends may stand in it. -/
def unescape (long : Bool) (start : Nat) (t : Text) : Except Nat Text :=
  match t with
  | [] => .ok []
  | '\\' :: [] => .error (start + 1)
  | '\\' :: c :: r =>
    match simpleEscape? c, escapeWidth? c with
    | some d, _ => consText d (unescape long (start + 2) r)
    | none, some width =>
      match codePoint width (start + 2) r with
      | .ok d => consText d (unescape long (start + 2 + width) (r.drop width))
      | .error offset => .error offset
    | none, none =>
      if long && isHidden c then
        match checkHidden (start + 1) (c :: r) with
        | .ok _ =>
          let rest := (c :: r).dropWhile isHidden
          unescape long (start + 1 + ((c :: r).length - rest.length)) rest
        | .error offset => .error offset
      else .error (start + 1)
  | c :: r =>
    match checkPlain long start c r with
    | .ok _ => consText c (unescape long (start + 1) r)
    | .error offset => .error offset
termination_by t.length
decreasing_by
  all_goals simp only [List.length_drop, List.length_cons]
  all_goals try omega
  have := Text.length_dropWhile_le isHidden (c :: r)
  simp only [List.length_cons] at this
  omega

/-- The text between apostrophes, `start` being its offset. -/
def plain (long : Bool) (start : Nat) : Text → Except Nat Text
  | [] => .ok []
  | c :: r =>
    match checkPlain long start c r with
    | .ok _ => consText c (plain long (start + 1) r)
    | .error offset => .error offset

/-- What stands between two delimiters, if both are there. -/
def between? (delimiter t : Text) : Option Text :=
  (Text.dropPrefix? delimiter t).bind (Text.dropSuffix? delimiter)

/-- A text without a line end at its front, and the number of characters of that. -/
def dropFirstNewline : Text → Nat × Text
  | '\n' :: r => (1, r)
  | '\r' :: '\n' :: r => (2, r)
  | r => (0, r)

/-- The text of a string as written. -/
def stringText (w : Written) : Except Nat Text :=
  match w.kind with
  | .basic =>
    match between? ['"'] w.text with
    | none => .error w.stop
    | some t => unescape false (w.start + 1) t
  | .literal =>
    match between? ['\''] w.text with
    | none => .error w.stop
    | some t => plain false (w.start + 1) t
  | .longBasic =>
    match between? ['"', '"', '"'] w.text with
    | none => .error w.stop
    | some t => unescape true (w.start + 3 + (dropFirstNewline t).1) (dropFirstNewline t).2
  | .longLiteral =>
    match between? ['\'', '\'', '\''] w.text with
    | none => .error w.stop
    | some t => plain true (w.start + 3 + (dropFirstNewline t).1) (dropFirstNewline t).2
  | _ => .ok w.text

/-! ## Keys -/

/-- Whether a character can stand in a key without quotes. -/
def isKeyCharacter (c : Char) : Bool := c.isAlphanum || c = '-' || c = '_'

/-- The text of a key as written. -/
def keyText (w : Written) : Except Nat Text :=
  match w.kind with
  | .bare =>
    if w.text.isEmpty then .error w.start
    else
      match w.text.findIdx? (!isKeyCharacter ·) with
      | some i => .error (w.start + i)
      | none => .ok w.text
  | .longBasic => .error w.start
  | .longLiteral => .error w.start
  | _ => stringText w

/-! ## Numbers -/

/-- The index of the first underscore that does not stand between two digits;
`before` tells whether a digit stands before the text. -/
def strayUnderscore? (isDigit : Char → Bool) (before : Bool) : Text → Option Nat
  | [] => none
  | c :: r =>
    if c = '_' && !(before && (r.head?.map isDigit).getD false) then some 0
    else (strayUnderscore? isDigit (isDigit c) r).map (· + 1)

/-- A numeral without its underscores, or the offset of a stray one. -/
def withoutUnderscores (isDigit : Char → Bool) (start : Nat) (t : Text) : Except Nat Text :=
  match strayUnderscore? isDigit false t with
  | some i => .error (start + i)
  | none => .ok (t.filter (· ≠ '_'))

/-- An integer whose digits begin at `start`.  The underscores in it stand between
digits of any base. -/
def integer (base start : Nat) (negative : Bool) (t : Text) : Except Nat Value := do
  return .integer ⟨base, negative, ← withoutUnderscores Text.isHexDigit start t⟩

/-- An integer of another base than ten, behind the letter for it. -/
def basedInteger (base start : Nat) (t : Text) : Except Nat Value :=
  match t.findIdx? fun c => (Text.digit? base c).isNone && c ≠ '_' with
  | some i => .error (start + i)
  | none => integer base start false t

/-- The base that a letter behind a zero tells. -/
def baseOf? (c : Char) : Option Nat :=
  match c with
  | 'x' => some 16
  | 'o' => some 8
  | 'b' => some 2
  | _ => none

/-- Whether a character can be taken for the letter of a base. -/
def isBaseLetter (c : Char) : Bool := ['x', 'o', 'b', 'd'].contains c.toLower

/-- Whether a text begins with a zero that another character follows. -/
def hasLeadingZero (t : Text) : Bool := t.length > 1 && t.head? = some '0'

/-- The text behind the digits of a part of a number, where underscores may stand
among them.  `leading` tells whether the digits may begin with a zero. -/
def digitsRest (leading : Bool) (start : Nat) (t : Text) : Except Nat Text :=
  let run := t.takeWhile fun c => c.isDigit || c = '_'
  let count := run.countP Char.isDigit
  if count = 0 || (!leading && count > 1 && t.head? = some '0') then .error start
  else .ok (t.drop run.length)

/-- The text behind a sign. -/
def dropNumberSign : Text → Text
  | c :: r => if c = '+' || c = '-' then r else c :: r
  | [] => []

/-- Checks the form of a number with a point or an exponent; `start` is its offset. -/
def checkFloat (start : Nat) (t : Text) : Except Nat Unit := do
  let place (rest : Text) : Nat := start + (t.length - rest.length)
  let rest ← digitsRest false start t
  let rest ← match rest with
    | '.' :: r => digitsRest true (place r) r
    | r => pure r
  let rest ← match rest with
    | c :: r =>
      if c = 'e' || c = 'E' then digitsRest true (place (dropNumberSign r)) (dropNumberSign r)
      else pure (c :: r)
    | [] => pure []
  if rest.isEmpty then return () else .error (place rest)

/-- A number with a point or an exponent, behind its sign; `start` is the offset of
the scalar and `lead` the number of characters before the number. -/
def floatValue (start lead : Nat) (negative : Bool) (t : Text) : Except Nat Value := do
  checkFloat (start + lead) t
  let numeral ← withoutUnderscores Char.isDigit (start + lead) t
  match Binary64.unsigned? negative numeral with
  | some (.infinite _) => return .excess
  | some x => return .float x
  | none => .error start

/-- A number or a date that begins with the text `t`, which may be a sign and the text
behind it.  `start` is the offset of the scalar, `source` the whole of it and `lead`
the number of characters before `t`. -/
def number (start : Nat) (source : Text) (lead : Nat) (negative : Bool) (t : Text) :
    Except Nat Value :=
  match t.dropWhile Char.isDigit with
  | [] => if hasLeadingZero t then .error (start + lead) else integer 10 (start + lead) negative t
  | c :: r =>
    if c = '-' || c = ':' then
      match dateTime? source with
      | some shown => .ok (.dateTime shown)
      | none => .error start
    else if (c :: r).contains ' ' then .error start
    else if (c :: r).any (['.', 'e', 'E'].contains ·) then floatValue start lead negative t
    else if c = '_' then
      if hasLeadingZero t then .error (start + lead) else integer 10 (start + lead) negative t
    else .error start

/-- A number that may have another base than ten.  A sign, a capital letter and a
letter for the base ten do not go with a base. -/
def numberOfAnyBase (start : Nat) (source : Text) (lead : Nat) (negative : Bool) (t : Text) :
    Except Nat Value :=
  match t with
  | '0' :: c :: r =>
    if isBaseLetter c then
      match baseOf? c with
      | some base => if lead = 0 then basedInteger base (start + 2) r else .error start
      | none => .error start
    else number start source lead negative t
  | t => number start source lead negative t

/-- A number behind a sign. -/
def signedNumber (start : Nat) (negative : Bool) (source t : Text) : Except Nat Value :=
  if t = "inf".toList then .ok (.float (.infinite negative))
  else if t = "nan".toList then .ok (.float .nan)
  else
    match t with
    | [] => .error start
    | c :: _ =>
      if c = '+' || c = '-' then .error (start + 1)
      else if c.isDigit || c = '_' then numberOfAnyBase start source 1 negative t
      else .error start

/-! ## Scalars -/

/-- The value of a scalar without quotes. -/
def bareValue (start : Nat) (t : Text) : Except Nat Value :=
  if t = "true".toList then .ok (.boolean true)
  else if t = "false".toList then .ok (.boolean false)
  else if t = "inf".toList then .ok (.float (.infinite false))
  else if t = "nan".toList then .ok (.float .nan)
  else
    match t with
    | [] => .error start
    | '-' :: r => signedNumber start true t r
    | '+' :: r => signedNumber start false t r
    | c :: _ => if c.isDigit || c = '_' then numberOfAnyBase start t 0 false t else .error start

/-- The value of a scalar as written. -/
def scalarValue (w : Written) : Except Nat Value :=
  match w.kind with
  | .bare => bareValue w.start w.text
  | _ => (stringText w).map .text

end TableScaffold.Toml
