import TableScaffold.Text.Location

/-!
# Why a configuration file cannot be read

Nearly every fault has a place in the file.  While a file is read, a place is an
offset; in the end it is a line and a column.
-/

namespace TableScaffold.Toml

/-- What is wrong with a file. -/
inductive Fault (Place : Type) where
  /-- what stands at a place cannot stand there -/
  | misfit (place : Place)
  /-- a key has too many parts -/
  | longKey
  deriving DecidableEq, Repr

namespace Fault

/-- The fault with its place told in another way. -/
def map {α β : Type} (f : α → β) : Fault α → Fault β
  | misfit place => misfit (f place)
  | longKey => longKey

/-- The wording of a fault. -/
def message : Fault Location → Text
  | misfit place =>
    "TOML parse error at line ".toList ++ Text.ofNat place.line ++ ", column ".toList
      ++ Text.ofNat place.column
  | longKey => "recursion limit".toList

end Fault

/-- An answer, or a fault at an offset. -/
abbrev Reading (α : Type) := Except (Fault Nat) α

/-- An answer, or the offset of what does not fit, as a reading. -/
def Reading.ofOffset {α : Type} : Except Nat α → Reading α
  | .ok a => .ok a
  | .error offset => .error (.misfit offset)

/-- The reading that fails at an offset. -/
def Reading.misfit {α : Type} (offset : Nat) : Reading α := .error (.misfit offset)

end TableScaffold.Toml
