import TableScaffold.Files.Fault
import TableScaffold.Path

/-!
# Access to files

What the program needs of a file system, as a class of monads, so that the same
program runs on the files of the machine and on a `Workspace` held as a value.
-/

namespace TableScaffold

/-- The file operations of a monad. -/
class FileAccess (m : Type → Type) where
  /-- the bytes of a file -/
  readBytes : Path → m (Except FileFault ByteArray)
  /-- makes a file hold the given bytes and no others -/
  writeBytes : Path → ByteArray → m (Except FileFault Unit)
  /-- makes a directory in one that is there -/
  makeDirectory : Path → m (Except FileFault Unit)
  /-- whether there is a directory -/
  isDirectory : Path → m Bool
  /-- whether there is a file or a directory -/
  isPresent : Path → m Bool
  /-- the directory that relative paths start from -/
  workingDirectory : m Path

namespace FileAccess

variable {m : Type → Type} [Monad m] [FileAccess m]

/-- The text of bytes in UTF-8. -/
def textOfBytes (bytes : ByteArray) : Except FileFault Text :=
  match String.fromUTF8? bytes with
  | some s => .ok s.toList
  | none => .error .invalidText

/-- A text in UTF-8. -/
def bytesOfText (t : Text) : ByteArray := (String.ofList t).toUTF8

/-- The text of a file in UTF-8. -/
def readText (p : Path) : m (Except FileFault Text) := do
  return (← readBytes p).bind textOfBytes

/-- Makes a file hold a text. -/
def writeText (p : Path) (t : Text) : m (Except FileFault Unit) :=
  writeBytes p (bytesOfText t)

/-- Makes a directory, or leaves the one that is there. -/
def ensureDirectory (p : Path) : m (Except FileFault Unit) := do
  match ← makeDirectory p with
  | .ok _ => return .ok ()
  | .error e => if ← isDirectory p then return .ok () else return .error e

/-- Makes the first of the given directories, each of which lies in the next one,
with as many of the others as are missing. -/
def makeNested : List Path → m (Except FileFault Unit)
  | [] => pure (.ok ())
  | p :: above => do
    if p.isEmpty then return .ok ()
    match ← ensureDirectory p with
    | .error .notFound =>
      match ← makeNested above with
      | .error e => return .error e
      | .ok _ => ensureDirectory p
    | result => return result

/-- Makes a directory with all the directories above it that are missing. -/
def makeDirectories (p : Path) : m (Except FileFault Unit) := makeNested (p :: p.above)

end FileAccess

end TableScaffold
