import TableScaffold.Number.Binary64

/-!
# Dates and times

A date, a time of day, or both with a blank or a `T` between them and perhaps an
offset behind them.  Seconds and their fraction may be left out.  They are shown
with a `T` and with no more digits of a second than are needed, and an offset of
nothing has a plus sign.
-/

namespace TableScaffold.Toml

/-- The first `n` characters of a text as a number, if all of them are digits, and
the text behind them. -/
def fixedDigits? (n : Nat) (t : Text) : Option (Nat × Text) :=
  let digits := t.take n
  if digits.length = n && Binary64.isDigits digits then
    some (Binary64.digitsValue digits, t.drop n)
  else none

/-- A number of `n` digits that lies in a range, and the text behind it. -/
def rangedDigits? (n least greatest : Nat) (t : Text) : Option (Nat × Text) :=
  (fixedDigits? n t).filter fun p => least ≤ p.1 && p.1 ≤ greatest

/-- Whether a year has a leap day. -/
def isLeapYear (year : Nat) : Bool :=
  year % 4 = 0 && (year % 100 ≠ 0 || year % 400 = 0)

/-- The number of days of a month. -/
def daysOfMonth (year month : Nat) : Nat :=
  if month = 2 then (if isLeapYear year then 29 else 28)
  else if [4, 6, 9, 11].contains month then 30 else 31

/-- The text behind a given character. -/
def skip? (c : Char) : Text → Option Text
  | [] => none
  | d :: r => if c = d then some r else none

/-- The text behind a date at the front of a text. -/
def dateRest? (t : Text) : Option Text := do
  let (year, r) ← fixedDigits? 4 t
  let (month, r) ← rangedDigits? 2 1 12 (← skip? '-' r)
  let (_, r) ← rangedDigits? 2 1 (daysOfMonth year month) (← skip? '-' r)
  return r

/-- The digits of a fraction of a second that are shown: nine at most, and no zero
at the end of several. -/
def shownFraction (digits : Text) : Text :=
  let shown := ((digits.take 9).reverse.dropWhile (· = '0')).reverse
  if shown.isEmpty then ['0'] else shown

/-- A fraction of a second at the front of a text, as it is shown, and the text
behind it. -/
def fraction? (t : Text) : Option (Text × Text) :=
  match t with
  | '.' :: r =>
    let digits := r.takeWhile Char.isDigit
    if digits.isEmpty then none
    else some ('.' :: shownFraction digits, r.dropWhile Char.isDigit)
  | r => some ([], r)

/-- The seconds of a time of day at the front of a text, as they are shown, and the
text behind them.  They may be left out. -/
def seconds? (t : Text) : Option (Text × Text) :=
  match t with
  | ':' :: r => do
    let (_, rest) ← rangedDigits? 2 0 60 r
    let (shown, rest) ← fraction? rest
    return (':' :: r.take 2 ++ shown, rest)
  | r => some ([], r)

/-- A time of day at the front of a text, as it is shown, and the text behind it. -/
def time? (t : Text) : Option (Text × Text) := do
  let (_, r) ← rangedDigits? 2 0 23 t
  let (_, r) ← rangedDigits? 2 0 59 (← skip? ':' r)
  let (shown, r) ← seconds? r
  return (t.take 5 ++ shown, r)

/-- An offset that makes up a whole text, as it is shown. -/
def offset? (t : Text) : Option Text :=
  match t with
  | [] => some []
  | [c] => if c = 'Z' || c = 'z' then some ['Z'] else none
  | sign :: r => do
    if sign ≠ '+' && sign ≠ '-' then none
    let (hours, r) ← rangedDigits? 2 0 23 r
    let (minutes, r) ← rangedDigits? 2 0 59 (← skip? ':' r)
    if !r.isEmpty then none
    return if hours = 0 && minutes = 0 then '+' :: t.tail else t

/-- A date and time that makes up a whole text, as it is shown. -/
def dateTime? (t : Text) : Option Text :=
  match dateRest? t with
  | none =>
    match time? t with
    | some (shown, []) => some shown
    | _ => none
  | some [] => some t
  | some (c :: r) =>
    if c = 'T' || c = 't' || c = ' ' then do
      let (shown, rest) ← time? r
      let offset ← offset? rest
      return t.take 10 ++ 'T' :: shown ++ offset
    else none

end TableScaffold.Toml
