import TableScaffold.Config.Setting

/-!
# Formats of settings that are read elsewhere

A file of settings may be in one of four formats for which there is no reader here.
What such a file holds is up to a reader that is left open.
-/

namespace TableScaffold

/-- A format without a reader here. -/
inductive ForeignFormat where
  | yaml
  | ini
  | ron
  | json5
  deriving DecidableEq, Repr

namespace ForeignFormat

/-- The extensions of the files of a format. -/
def extensions : ForeignFormat → List Text
  | yaml => ["yaml".toList, "yml".toList]
  | ini => ["ini".toList]
  | ron => ["ron".toList]
  | json5 => ["json5".toList]

end ForeignFormat

/-- The reader of the formats without a reader here. -/
class ForeignSettings where
  /-- the settings that the text of a file holds; `origin` is the name of the file -/
  read : ForeignFormat → (origin source : Text) → Except ConfigFault Settings

end TableScaffold
