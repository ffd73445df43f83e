import TableScaffold.Path

/-!
# Formatting Go files in place

A Go file can be given to a formatter once it is written.  The formatter is a
program beside this one: it reads the file and, unless it refuses what it reads,
writes the file anew.  Whether it succeeded is not asked for, nor whether there is
a formatter at all.
-/

namespace TableScaffold

/-- The monads in which a Go file can be given to the formatter. -/
class FormatAccess (m : Type → Type) where
  /-- gives a file to the formatter -/
  formatFile : Path → m Unit

/-- The formatter, of which nothing is said but that it changes the file it is given
and no other one. -/
class GoFormatter where
  /-- what comes in place of the bytes of a file; nothing does if the formatter refuses
  the file or is not there -/
  format? : Path → ByteArray → Option ByteArray

end TableScaffold
