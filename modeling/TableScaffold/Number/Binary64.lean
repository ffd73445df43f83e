import TableScaffold.Text.Numeral

/-!
# Binary floating-point numbers

A number of 64 bits is a sign, a significand below 2^53 and a power of two.  A
decimal numeral stands for the nearest such number, and for the one with the even
significand if two are equally near.  All arithmetic is on natural numbers, and
no digit is lost on the way.
-/

namespace TableScaffold

/-- A floating-point number of 64 bits. -/
inductive Binary64 where
  | nan
  | infinite (negative : Bool)
  /-- the number `m · 2 ^ q`, with its sign -/
  | finite (negative : Bool) (m : Nat) (q : Int)
  deriving DecidableEq, Repr

namespace Binary64

/-- Whether a number is one of the two zeros. -/
def isZero : Binary64 → Bool
  | finite _ m _ => m = 0
  | _ => false

/-! ## The nearest number -/

/-- The power `b ^ e`, or 1 if the exponent is negative. -/
def powerUp (b : Nat) (e : Int) : Nat := Nat.pow b e.toNat

/-- The nearest natural number to `n / d`, the even one of two. -/
def roundEven (n d : Nat) : Nat :=
  let f := n / d
  let r := n % d
  if 2 * r < d then f
  else if d < 2 * r then f + 1
  else if f % 2 = 0 then f else f + 1

/-- The least exponent of a significand. -/
def leastExponent : Int := -1074

/-- The greatest exponent of a significand. -/
def greatestExponent : Int := 971

/-- The exponent with which `n / d` has a significand of 53 bits, or the least one. -/
def exponentFor (n d : Nat) : Int :=
  let q := max leastExponent ((Nat.log2 n : Int) - (Nat.log2 d : Int) - 53)
  if Nat.pow 2 53 ≤ n * powerUp 2 (-q) / (d * powerUp 2 q) then q + 1 else q

/-- The nearest number to `n / d`. -/
def ofRatio (negative : Bool) (n d : Nat) : Binary64 :=
  let q := exponentFor n d
  let m := roundEven (n * powerUp 2 (-q)) (d * powerUp 2 q)
  let (m, q) := if m = Nat.pow 2 53 then (Nat.pow 2 52, q + 1) else (m, q)
  if greatestExponent < q then infinite negative else finite negative m q

/-- Decimal exponents of the leading digit beyond this size decide the number alone. -/
def decimalBound : Int := 400

/-- The nearest number to `digits · 10 ^ exponent`. -/
def ofDecimal (negative : Bool) (digits : Nat) (exponent : Int) : Binary64 :=
  let size : Int := (Nat.toDigits 10 digits).length + exponent
  if digits = 0 || size < -decimalBound then finite negative 0 leastExponent
  else if decimalBound < size then infinite negative
  else ofRatio negative (digits * powerUp 10 exponent) (powerUp 10 (-exponent))

/-! ## Reading numerals -/

/-- Whether a text holds decimal digits only. -/
def isDigits (t : Text) : Bool := t.all Char.isDigit

/-- The number that digits stand for. -/
def digitsValue (t : Text) : Nat := t.foldl (fun n c => n * 10 + (c.toNat - 48)) 0

/-- A sign in front of a text, and the text behind it. -/
def splitSign : Text → Bool × Text
  | '-' :: r => (true, r)
  | '+' :: r => (false, r)
  | r => (false, r)

/-- The integer that a text stands for: digits behind a sign or none. -/
def integer? (t : Text) : Option Int :=
  let (negative, digits) := splitSign t
  if digits.isEmpty || !isDigits digits then none
  else some (if negative then -(digitsValue digits : Int) else digitsValue digits)

/-- The exponent behind a significand: nothing, or an integer behind `e`. -/
def exponent? : Text → Option Int
  | [] => some 0
  | c :: r => if c = 'e' || c = 'E' then integer? r else none

/-- The number that an unsigned decimal numeral stands for; digits are needed on
one side of the point. -/
def unsigned? (negative : Bool) (t : Text) : Option Binary64 :=
  let whole := t.takeWhile Char.isDigit
  let behind := t.dropWhile Char.isDigit
  let (fraction, behind) :=
    match behind with
    | '.' :: r => (r.takeWhile Char.isDigit, r.dropWhile Char.isDigit)
    | r => ([], r)
  if whole.isEmpty && fraction.isEmpty then none
  else
    (exponent? behind).map fun e =>
      ofDecimal negative (digitsValue (whole ++ fraction)) (e - fraction.length)

/-- The number that a text stands for: a decimal numeral, an infinity or the value
that is no number, in letters of any case. -/
def ofText? (t : Text) : Option Binary64 :=
  let (negative, t) := splitSign t
  if Text.eqIgnoringCase t "nan".toList then some nan
  else if Text.eqIgnoringCase t "inf".toList || Text.eqIgnoringCase t "infinity".toList then
    some (infinite negative)
  else unsigned? negative t

end Binary64

end TableScaffold
