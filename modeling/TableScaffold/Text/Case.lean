import TableScaffold.Text.CaseTable
import TableScaffold.Text.Letter

/-!
# Letter case

Upper and lower case of characters and texts by the full Unicode mappings, which
may turn one character into several.  `lowercase` also follows the one mapping
that looks at its neighbours, the final sigma.
-/

namespace TableScaffold.Text

/-- The Unicode property `Lowercase`. -/
def isLowercase (c : Char) : Bool :=
  if c.toNat < 128 then c.isLower else lowercaseSpans.any (·.mem c.toNat)

/-- The Unicode property `Uppercase`. -/
def isUppercase (c : Char) : Bool :=
  if c.toNat < 128 then c.isUpper else uppercaseSpans.any (·.mem c.toNat)

/-- The Unicode property `Cased`. -/
def isCased (c : Char) : Bool :=
  if c.toNat < 128 then c.isAlpha else inRanges casedRanges c.toNat

/-- The Unicode property `Case_Ignorable`. -/
def isCaseIgnorable (c : Char) : Bool :=
  if c.toNat < 128 then ['\'', '.', ':', '^', '`'].contains c
  else inRanges caseIgnorableRanges c.toNat

/-- The image of a character under the first of the shifts that applies to it. -/
def shiftChar (shifts : List CodeShift) (c : Char) : Char :=
  match shifts.find? (·.mem c.toNat) with
  | some s => Char.ofNat (c.toNat + s.shift).toNat
  | none => c

/-- The upper case of one character. -/
def upperOf (c : Char) : Text :=
  if c.toNat < 128 then [c.toUpper]
  else
    match upperExpansions.lookup c.toNat with
    | some codes => codes.map Char.ofNat
    | none => [shiftChar upperShifts c]

/-- The lower case of one character. -/
def lowerOf (c : Char) : Text :=
  if c.toNat < 128 then [c.toLower]
  else if c.toNat == 0x130 then ['i', '\u0307']
  else [shiftChar lowerShifts c]

/-- A text with its first character in upper case. -/
def upperHead : Text → Text
  | [] => []
  | c :: r => upperOf c ++ r

/-- Whether the first character that is not ignorable for case has a case. -/
def startsCased (t : Text) : Bool :=
  match t.dropWhile isCaseIgnorable with
  | [] => false
  | c :: _ => isCased c

/-- The capital sigma, whose lower case depends on its place in the word. -/
def capitalSigma : Char := 'Σ'

/-- The lower case of a text, where `before` holds the characters already read,
the last one first.  A capital sigma that ends a word becomes a final sigma. -/
def lowercaseAfter (before : Text) : Text → Text
  | [] => []
  | c :: r =>
    (if c = capitalSigma then
      if startsCased before && !startsCased r then ['ς'] else ['σ']
    else lowerOf c) ++ lowercaseAfter (c :: before) r

/-- The lower case of a text. -/
def lowercase (t : Text) : Text := lowercaseAfter [] t

theorem upperOf_ascii {c : Char} (h : c.toNat < 128) : upperOf c = [c.toUpper] := by
  simp [upperOf, h]

theorem lowerOf_ascii {c : Char} (h : c.toNat < 128) : lowerOf c = [c.toLower] := by
  simp [lowerOf, h]

end TableScaffold.Text
