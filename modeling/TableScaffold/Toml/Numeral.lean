import TableScaffold.Text.Numeral

/-!
# Integers as written

A file may hold an integer of any size.  It is kept as its digits, and becomes a
number where one is wanted; then it may turn out that it does not fit, or that it
is no numeral at all.
-/

namespace TableScaffold.Toml

/-- Why a numeral does not become a number. -/
inductive NumeralFault where
  | noDigits
  | strayCharacter
  | tooLarge
  | tooSmall
  /-- the number is greater than every floating-point number -/
  | overflow
  deriving DecidableEq, Repr

/-- The wording of a fault. -/
def NumeralFault.message : NumeralFault → Text
  | noDigits => "cannot parse integer from empty string".toList
  | strayCharacter => "invalid digit found in string".toList
  | tooLarge => "number too large to fit in target type".toList
  | tooSmall => "number too small to fit in target type".toList
  | overflow => "floating-point number overflowed".toList

/-- An integer as written, without the marks between its digits. -/
structure Numeral where
  base : Nat
  negative : Bool
  digits : Text
  deriving DecidableEq, Repr

namespace Numeral

/-- The number that the digits stand for, without their sign. -/
def magnitude? (n : Numeral) : Option Nat :=
  if n.digits.isEmpty then none
  else if n.digits.all fun c => (Text.digit? n.base c).isSome then Text.numeral? n.base n.digits
  else none

/-- The number that a numeral stands for. -/
def value? (n : Numeral) : Option Int :=
  n.magnitude?.map fun m => if n.negative then -(m : Int) else m

/-- The number with one more digit, if it still has 64 bits. -/
def push64 (base : Nat) (negative : Bool) (v : Int) (c : Char) : Except NumeralFault Int :=
  match Text.digit? base c with
  | none => .error .strayCharacter
  | some d =>
    let v := v * base + if negative then -(d : Int) else d
    if v < -Int.pow 2 63 then .error .tooSmall
    else if Int.pow 2 63 ≤ v then .error .tooLarge
    else .ok v

/-- The number that a numeral stands for, if it is one of 64 bits; the digits are
read one after the other, and the first fault is told. -/
def toInt64 (n : Numeral) : Except NumeralFault Int :=
  if n.digits.isEmpty then .error .noDigits
  else n.digits.foldlM (push64 n.base n.negative) 0

/-- Whether a numeral stands for a number of 128 bits, with a sign or without one. -/
def fits128 (n : Numeral) : Bool :=
  match n.value? with
  | none => false
  | some v => -Int.pow 2 127 ≤ v && v < Int.pow 2 128

end Numeral

end TableScaffold.Toml
