import TableScaffold.Text.Basic

/-!
# Numerals

Digits and numerals in bases up to sixteen, and which numbers are the code points
of characters.
-/

namespace TableScaffold.Text

/-- The value of a hexadecimal digit. -/
def hexDigit? (c : Char) : Option Nat :=
  if c.isDigit then some (c.toNat - 48)
  else if 'a' ≤ c && c ≤ 'f' then some (c.toNat - 87)
  else if 'A' ≤ c && c ≤ 'F' then some (c.toNat - 55)
  else none

/-- The value of a digit of a base up to 16. -/
def digit? (base : Nat) (c : Char) : Option Nat := (hexDigit? c).filter (· < base)

/-- Whether a character is a hexadecimal digit. -/
def isHexDigit (c : Char) : Bool := (hexDigit? c).isSome

/-- Whether a character is an octal digit. -/
def isOctalDigit (c : Char) : Bool := '0' ≤ c && c ≤ '7'

/-- The value of a numeral with one more digit. -/
def pushDigit? (base : Nat) : Option Nat → Char → Option Nat
  | none, _ => none
  | some n, c => (hexDigit? c).map (n * base + ·)

/-- The value of a numeral in a base up to 16, if all its characters are
hexadecimal digits. -/
def numeral? (base : Nat) (t : Text) : Option Nat := t.foldl (pushDigit? base) (some 0)

/-- Whether a number is the code point of a character. -/
def isCodePoint (n : Nat) : Bool := n < 0xD800 || (0xDFFF < n && n < 0x110000)

end TableScaffold.Text
