import TableScaffold.Number.Binary64

/-!
# Paths of settings

The key of a setting can be a path: a name, and behind it steps into maps, as
`.name`, and into lists, as `[index]`.  Every other key is a name as it stands.
-/

namespace TableScaffold

/-- A step into a value. -/
inductive SettingStep where
  /-- to what a map has under a name -/
  | name (name : Text)
  /-- to an item of a list -/
  | item
  deriving DecidableEq, Repr

/-- Where a setting belongs: under a name, and some steps further in. -/
structure SettingPath where
  root : Text
  steps : List SettingStep
  deriving DecidableEq, Repr

namespace SettingPath

/-- Whether a name in a path can hold a character. -/
def isNameCharacter (c : Char) : Bool := c.isAlphanum || c = '-' || c = '_'

/-- Blanks that may stand around an index. -/
def isIndexBlank (c : Char) : Bool := c = ' ' || c = '\t'

/-- The name at the front of a text, if there is one, and the text behind it. -/
def name? (t : Text) : Option (Text × Text) :=
  let name := t.takeWhile isNameCharacter
  if name.isEmpty then none else some (name, t.dropWhile isNameCharacter)

/-- The text behind an index of a list and its closing bracket: digits, perhaps behind
a minus sign, that make an integer of 64 bits. -/
def afterIndex? (t : Text) : Option Text :=
  let t := t.dropWhile isIndexBlank
  let negative := t.head? = some '-'
  let t := if negative then t.tail else t
  let digits := t.takeWhile Char.isDigit
  let size := Binary64.digitsValue digits
  if digits.isEmpty || (if negative then Nat.pow 2 63 < size else Nat.pow 2 63 ≤ size) then none
  else
    match (t.dropWhile Char.isDigit).dropWhile isIndexBlank with
    | ']' :: r => some r
    | _ => none

/-- The steps that make up a text.  The fuel bounds the number of its characters, each
step takes at least one. -/
def steps? : Nat → Text → Option (List SettingStep)
  | 0, _ => none
  | _ + 1, [] => some []
  | fuel + 1, c :: r =>
    if c = '.' then do
      let (name, rest) ← name? r
      return .name name :: (← steps? fuel rest)
    else if c = '[' then do
      let rest ← afterIndex? r
      return .item :: (← steps? fuel rest)
    else none

/-- The path that a key spells, if it spells one. -/
def ofSpelling? (key : Text) : Option SettingPath := do
  let (root, rest) ← name? key
  return ⟨root, ← steps? (rest.length + 1) rest⟩

/-- The path that a key stands for. -/
def ofKey (key : Text) : SettingPath := (ofSpelling? key).getD ⟨key, []⟩

end SettingPath

end TableScaffold
