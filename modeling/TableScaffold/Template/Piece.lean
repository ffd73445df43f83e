import TableScaffold.Template.SlotName

/-!
# Template source, piece by piece

A built-in template is written down as lines of pieces: literal text, slots, and
quoted text for the characters that would otherwise begin a tag.  `source` spells
the pieces out as the text of a template.
-/

namespace TableScaffold.Template

/-- A piece of a template. -/
inductive Piece where
  /-- literal text -/
  | text (t : String)
  /-- the value of a slot -/
  | slot (name : SlotName)
  /-- text that a slot quotes -/
  | quoted (t : String)
  deriving DecidableEq, Repr

namespace Piece

instance : Coe String Piece := ⟨text⟩

instance : Coe SlotName Piece := ⟨slot⟩

/-- An opening brace in front of a slot. -/
def openBrace : Piece := quoted "\x7b"

/-- A closing brace behind a slot. -/
def closeBrace : Piece := quoted "\x7d"

/-- One line of a template. -/
def line (pieces : List Piece) : List Piece := pieces

/-- A piece as a template spells it. -/
def source : Piece → Text
  | text t => t.toList
  | slot name => "\x7b\x7b ".toList ++ name.spelling ++ " \x7d\x7d".toList
  | quoted t => "\x7b\x7b '".toList ++ t.toList ++ "' \x7d\x7d".toList

end Piece

/-- The text of a template with the given lines. -/
def sourceOfLines (lines : List (List Piece)) : Text :=
  Text.join ['\n'] (lines.map (·.flatMap Piece.source))

end TableScaffold.Template
