import TableScaffold.Number.Binary64

/-!
# JSON values

The values of JSON and their reader.  A reader takes the text that is left and
answers what it read with the text behind it; a fault comes with the text that was
left at its place.
-/

namespace TableScaffold.Json

/-- A value of JSON; the pairs of an object stand in the order of the text. -/
inductive Value where
  | null
  | boolean (b : Bool)
  | integer (n : Int)
  | float (x : Binary64)
  | text (t : Text)
  | list (items : List Value)
  | object (pairs : List (Text × Value))

/-- White space between tokens. -/
def isJsonBlank (c : Char) : Bool := c = ' ' || c = '\t' || c = '\n' || c = '\r'

/-- The text behind white space. -/
def skipBlanks (t : Text) : Text := t.dropWhile isJsonBlank

/-! ## Strings -/

/-- The character that a short escape stands for. -/
def simpleEscape? (c : Char) : Option Char :=
  match c with
  | '"' => some '"'
  | '\\' => some '\\'
  | '/' => some '/'
  | 'b' => some '\x08'
  | 'f' => some '\x0c'
  | 'n' => some '\n'
  | 'r' => some '\r'
  | 't' => some '\t'
  | _ => none

/-- The value of four hexadecimal digits at the front of a text. -/
def unit? (t : Text) : Option Nat :=
  if (t.take 4).length = 4 then Text.numeral? 16 (t.take 4) else none

/-- The character that an escaped code unit stands for, with the number of
characters of the text that it takes; a high surrogate needs a low one behind it. -/
def escapedCharacter? (t : Text) : Option (Char × Nat) := do
  let high ← unit? t
  if 0xD800 ≤ high && high < 0xDC00 then
    let behind ← Text.dropPrefix? ['\\', 'u'] (t.drop 4)
    let low ← unit? behind
    if 0xDC00 ≤ low && low < 0xE000 then
      some (Char.ofNat (0x10000 + (high - 0xD800) * 0x400 + (low - 0xDC00)), 10)
    else none
  else if Text.isCodePoint high then some (Char.ofNat high, 4)
  else none

/-- The text up to the closing quote, and the text behind that. -/
def stringBody (t : Text) : Except Text (Text × Text) :=
  match t with
  | [] => .error []
  | '"' :: r => .ok ([], r)
  | '\\' :: 'u' :: r =>
    match escapedCharacter? r with
    | some (c, n) => (stringBody (r.drop n)).map fun p => (c :: p.1, p.2)
    | none => .error r
  | '\\' :: c :: r =>
    match simpleEscape? c with
    | some d => (stringBody r).map fun p => (d :: p.1, p.2)
    | none => .error (c :: r)
  | c :: r =>
    if c.toNat < 32 then .error (c :: r)
    else (stringBody r).map fun p => (c :: p.1, p.2)
termination_by t.length
decreasing_by
  all_goals
    simp only [List.length_drop, List.length_cons]
    omega

/-! ## Numbers -/

/-- The characters of a number. -/
def isNumberCharacter (c : Char) : Bool :=
  c.isDigit || ['-', '+', '.', 'e', 'E'].contains c

/-- Whether digits are a number without a needless zero at the front. -/
def isWhole (digits : Text) : Bool :=
  !digits.isEmpty && (digits.length = 1 || digits.head? ≠ some '0')

/-- The number that a text stands for: an integer of 64 bits if it has neither a
point nor an exponent and is not too large. -/
def number? (t : Text) : Option Value :=
  let (negative, body) := match t with
    | '-' :: r => (true, r)
    | r => (false, r)
  let whole := body.takeWhile Char.isDigit
  let rest := body.drop whole.length
  if !isWhole whole then none
  else
    match rest with
    | [] =>
      let n : Int := Binary64.digitsValue whole
      let n := if negative then -n else n
      if -Int.pow 2 63 ≤ n && n < Int.pow 2 63 then some (.integer n)
      else (Binary64.unsigned? negative body).map .float
    | '.' :: c :: _ => if c.isDigit then (Binary64.unsigned? negative body).map .float else none
    | '.' :: [] => none
    | _ => (Binary64.unsigned? negative body).map .float

/-! ## Values -/

mutual

/-- A value.  The fuel bounds the number of steps. -/
def value : Nat → Text → Except Text (Value × Text)
  | 0, t => .error t
  | fuel + 1, t =>
    match skipBlanks t with
    | [] => .error []
    | '"' :: r => (stringBody r).map fun p => (.text p.1, p.2)
    | '[' :: r =>
      match skipBlanks r with
      | ']' :: r => .ok (.list [], r)
      | r => (items fuel r).map fun p => (.list p.1, p.2)
    | '\x7b' :: r =>
      match skipBlanks r with
      | '\x7d' :: r => .ok (.object [], r)
      | r => (pairs fuel r).map fun p => (.object p.1, p.2)
    | t =>
      match Text.dropPrefix? "null".toList t, Text.dropPrefix? "true".toList t,
        Text.dropPrefix? "false".toList t with
      | some r, _, _ => .ok (.null, r)
      | _, some r, _ => .ok (.boolean true, r)
      | _, _, some r => .ok (.boolean false, r)
      | none, none, none =>
        match number? (t.takeWhile isNumberCharacter) with
        | some v => .ok (v, t.dropWhile isNumberCharacter)
        | none => .error t

/-- The items of a list up to its closing bracket. -/
def items : Nat → Text → Except Text (List Value × Text)
  | 0, t => .error t
  | fuel + 1, t => do
    let (v, rest) ← value fuel t
    match skipBlanks rest with
    | ',' :: r =>
      let (vs, rest) ← items fuel r
      return (v :: vs, rest)
    | ']' :: r => return ([v], r)
    | r => .error r

/-- The pairs of an object up to its closing brace. -/
def pairs : Nat → Text → Except Text (List (Text × Value) × Text)
  | 0, t => .error t
  | fuel + 1, t => do
    match skipBlanks t with
    | '"' :: r =>
      let (key, rest) ← stringBody r
      match skipBlanks rest with
      | ':' :: r =>
        let (v, rest) ← value fuel r
        match skipBlanks rest with
        | ',' :: r =>
          let (ps, rest) ← pairs fuel r
          return ((key, v) :: ps, rest)
        | '\x7d' :: r => return ([(key, v)], r)
        | r => .error r
      | r => .error r
    | r => .error r

end

/-- Reads a whole text, or answers the text that was left at the fault. -/
def parse (t : Text) : Except Text Value :=
  match value (t.length + 1) t with
  | .error rest => .error rest
  | .ok (v, rest) => if (skipBlanks rest).isEmpty then .ok v else .error (skipBlanks rest)

end TableScaffold.Json
