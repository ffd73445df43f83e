import TableScaffold.Text.Basic

/-!
# White space

White space is the Unicode property `White_Space`.  It decides which ends
`trim` removes, where `words` cuts, and which rows of a text count as empty.
-/

namespace TableScaffold.Text

/-- The Unicode property `White_Space`. -/
def isBlank (c : Char) : Bool :=
  let n := c.toNat
  (9 ≤ n && n ≤ 13) || n == 32 || n == 0x85 || n == 0xA0 || n == 0x1680
    || (0x2000 ≤ n && n ≤ 0x200A) || n == 0x2028 || n == 0x2029 || n == 0x202F
    || n == 0x205F || n == 0x3000

/-- A text without the white space at both its ends. -/
def trim (t : Text) : Text :=
  ((t.dropWhile isBlank).reverse.dropWhile isBlank).reverse

/-- The maximal runs of characters that are not white space. -/
def words (t : Text) : List Text := (splitBy isBlank t).filter (!·.isEmpty)

/-- Whether a row holds nothing but white space. -/
def isBlankRow (row : Text) : Bool := (trim row).isEmpty

/-- The text without its empty rows: the lines that hold something else than
white space, with a line feed between neighbours. -/
def dropBlankRows (t : Text) : Text :=
  join ['\n'] ((lines t).filter (!isBlankRow ·))

end TableScaffold.Text
