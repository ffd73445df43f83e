import TableScaffold.Config.Environment
import TableScaffold.Config.FileFormat
import TableScaffold.Files.Access
import TableScaffold.Generation.Error

/-!
# Loading a configuration

A configuration is read from one file on its own, with every value of the type that
its field takes, or from a file and the environment in layers, with values converted
where that can be done.
-/

namespace TableScaffold

namespace Config

/-! ## One file -/

/-- The configuration with an entry of a file; `path` and `source` are the file's name
and text.  What no field asks for has to be a value all the same. -/
def setFromFile (path : Path) (source : Text) (c : Config) (entry : Text × Nat × Toml.Value) :
    Except ConfigFault Config :=
  let (key, start, v) := entry
  let misfit (offset : Nat) : ConfigFault :=
    .malformedFile path (.misfit (Toml.placeOf source offset))
  match ConfigField.all.find? (·.key = key) with
  | none =>
    match v.unreadable? start with
    | none => .ok c
    | some offset => .error (misfit offset)
  | some f =>
    match f.type, v with
    | .text, .text t => .ok (f.setText t c)
    | .boolean, .boolean b => .ok (f.setBoolean b c)
    | _, _ => .error (misfit start)

/-- The configuration that the text of a file makes of the defaults. -/
def ofFileText (path : Path) (source : Text) : Except ConfigFault Config :=
  match Toml.parse .strict source with
  | .error fault => .error (.malformedFile path fault)
  | .ok entries => entries.foldlM (setFromFile path source) {}

/-! ## Layers -/

variable {m : Type → Type} [Monad m] [FileAccess m]

/-- Whether there is a file. -/
def isFile (p : Path) : m Bool := do
  return (← FileAccess.isPresent p) && !(← FileAccess.isDirectory p)

/-- The first of the given paths where a file is, with its format. -/
def firstFile : List (Path × FileFormat) → m (Option (Path × FileFormat))
  | [] => pure none
  | (p, format) :: rest => do if ← isFile p then return some (p, format) else firstFile rest

/-- The file that a name stands for: the file of that name, or else one with an
extension behind it. -/
def findFile (name : Path) : m (Except ConfigFault (Path × FileFormat)) := do
  let path := Path.join (← FileAccess.workingDirectory) name
  if ← isFile path then
    match (Path.extension? path).bind FileFormat.ofExtension? with
    | some format => return .ok (path, format)
    | none => return .error (.unknownFormat path)
  else
    let candidates := FileFormat.all.flatMap fun f =>
      f.extensions.map fun extension => (path.addExtension extension, f)
    match ← firstFile candidates with
    | some found => return .ok found
    | none => return .error (.missingFile name)

variable [ForeignSettings]

/-- The settings of the file that a name stands for. -/
def fileSettings (name : Path) : m (Except ConfigFault Settings) := do
  match ← findFile name with
  | .error fault => return .error fault
  | .ok (path, format) =>
    match ← FileAccess.readBytes path with
    | .error fault => return .error (.unreadableFile fault.message)
    | .ok bytes =>
      let origin := path.relativeTo (← FileAccess.workingDirectory)
      return format.settings origin (FileFormat.sourceText bytes)

/-- The name of the file that is looked for if none is given. -/
def defaultFile : Path := "crudgen".toList

/-- The settings of the given file, or of the default file if there is one. -/
def sourceSettings (name : Option Path) : m (Except ConfigFault Settings) := do
  match name with
  | some name => fileSettings name
  | none =>
    match ← findFile (m := m) defaultFile with
    | .error _ => return .ok []
    | .ok _ => fileSettings defaultFile

/-- The configuration of a file and the environment, which comes over it. -/
def load (name : Option Path) (environment : Environment) : ExceptT ScaffoldError m Config := do
  match ← sourceSettings (m := m) name with
  | .error fault => throw (.config fault)
  | .ok settings =>
    match (Settings.addSource (Settings.addSource [] settings) environment.settings).toConfig with
    | .error fault => throw (.config fault)
    | .ok c => return c

/-- The configuration of one file. -/
def fromFile (path : Path) : ExceptT ScaffoldError m Config := do
  match ← FileAccess.readText (m := m) path with
  | .error fault => throw (.file fault)
  | .ok source =>
    match ofFileText path source with
    | .error fault => throw (.config fault)
    | .ok c => return c

end Config

end TableScaffold
