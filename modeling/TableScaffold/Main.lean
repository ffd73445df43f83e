import TableScaffold.CommandLine.Program

/-!
# The program on a machine

The files of the machine as a `FileAccess`, the environment, and the entry point.
-/

namespace TableScaffold.Machine

open CommandLine (Outcome)

/-- The fault that an error number of the system stands for. -/
def faultOfNumber (number : Nat) (details : String) : FileFault :=
  match number with
  | 2 => .notFound
  | 17 => .alreadyExists
  | 20 => .notDirectory
  | 21 => .isDirectory
  | 36 => .nameTooLong
  | n => .other (details.toList ++ " (os error ".toList ++ Text.ofNat n ++ [')'])

/-- The fault behind an error. -/
def faultOfError : IO.Error → FileFault
  | .alreadyExists _ n details => faultOfNumber n.toNat details
  | .otherError n details => faultOfNumber n.toNat details
  | .resourceBusy n details => faultOfNumber n.toNat details
  | .noFileOrDirectory _ n details => faultOfNumber n.toNat details
  | .invalidArgument _ n details => faultOfNumber n.toNat details
  | .permissionDenied _ n details => faultOfNumber n.toNat details
  | .resourceExhausted _ n details => faultOfNumber n.toNat details
  | .inappropriateType _ n details => faultOfNumber n.toNat details
  | .noSuchThing _ n details => faultOfNumber n.toNat details
  | e => .other (toString e).toList

/-- An operation on a path, with its fault as a value. -/
def attempt {α : Type} (p : Path) (operation : String → IO α) : IO (Except FileFault α) := do
  if p.contains '\x00' then return .error .nulInName
  try
    return .ok (← operation (String.ofList p))
  catch e => return .error (faultOfError e)

/-- Whether something holds of what a path leads to; nothing does for an empty path. -/
def holds (p : Path) (test : String → IO Bool) : IO Bool := do
  if p.isEmpty || p.contains '\x00' then return false
  test (String.ofList p)

instance : FileAccess IO where
  readBytes p := attempt p fun name => IO.FS.readBinFile name
  writeBytes p bytes := attempt p fun name => IO.FS.writeBinFile name bytes
  makeDirectory p := attempt p fun name => IO.FS.createDir name
  isDirectory p := holds p fun name => do return (← ((← IO.currentDir) / name).isDir)
  isPresent p := holds p fun name => do return (← ((← IO.currentDir) / name).pathExists)
  workingDirectory := do return (← IO.currentDir).toString.toList

/-- No formatter is started, so Go files stay as they are written. -/
instance : FormatAccess IO where
  formatFile _ := pure ()

/-- A variable of the environment, as it stands before its end mark. -/
def variableOfText (t : Text) : Text × Text :=
  (t.takeWhile (· ≠ '='), (t.dropWhile (· ≠ '=')).drop 1)

/-- The environment of the program. -/
def environment : IO Environment := do
  match ← FileAccess.readBytes (m := IO) "/proc/self/environ".toList with
  | .error _ => return []
  | .ok bytes =>
    let t := Text.ofDamagedUtf8 (bytes.toList.map UInt8.toNat)
    return ((Text.splitOn '\x00' t).filter (!·.isEmpty)).map variableOfText

/-- Prints an outcome. -/
def print (o : Outcome) : IO Unit := do
  IO.print (String.ofList o.output)
  IO.eprint (String.ofList o.errorOutput)
  if let .misused _ := o then IO.eprintln ""

end TableScaffold.Machine

/-- Runs the program. -/
def main (words : List String) : IO UInt32 := do
  let environment ← TableScaffold.Machine.environment
  let outcome ← TableScaffold.CommandLine.run (m := IO) (words.map String.toList) environment
  TableScaffold.Machine.print outcome
  return outcome.code.toUInt32
