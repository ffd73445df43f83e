import TableScaffold.Config.ForeignSettings
import TableScaffold.Json.Value
import TableScaffold.Text.Utf8
import TableScaffold.Toml.Document

/-!
# Formats of configuration files

A file that is one source among others has a format, which its extension tells, and
becomes settings.  Two of the formats are read here; for the others the reader is left
open (`ForeignSettings`).
-/

namespace TableScaffold

/-- A format of files. -/
inductive FileFormat where
  | toml
  | json
  /-- a format without a reader here -/
  | foreign (format : ForeignFormat)
  deriving DecidableEq, Repr

namespace FileFormat

/-- All formats, in the order in which they are looked for. -/
def all : List FileFormat :=
  [toml, json, foreign .yaml, foreign .ini, foreign .ron, foreign .json5]

/-- The extensions of the files of a format. -/
def extensions : FileFormat → List Text
  | toml => ["toml".toList]
  | json => ["json".toList]
  | foreign format => format.extensions

/-- The format of the files with an extension. -/
def ofExtension? (e : Text) : Option FileFormat := all.find? (·.extensions.contains e)

/-- A number, or why there is none, as the value of a setting. -/
def numberSetting (origin : Text) : Except Toml.NumeralFault Int → Except ConfigFault Setting
  | .ok n => .ok (.scalar origin (.integer n))
  | .error fault => .error (.unreadableNumber fault origin)

mutual

/-- A value of a file as a setting. -/
def tomlSetting (origin : Text) : Toml.Value → Except ConfigFault Setting
  | .text t => .ok (.scalar origin (.text t))
  | .integer n => numberSetting origin n.toInt64
  | .float x => .ok (.scalar origin (.float x))
  | .excess => .error (.unreadableNumber .overflow origin)
  | .boolean b => .ok (.scalar origin (.boolean b))
  | .dateTime t => .ok (.scalar origin (.text t))
  | .list items => do
    checkItems origin items
    return .list (some origin)
  | .tables ts => do
    checkTables origin ts
    return .list (some origin)
  | .table _ entries => do return .map (← tomlSettings origin entries)

/-- Accepts the items of a list if all of them can be settings. -/
def checkItems (origin : Text) : List (Nat × Toml.Value) → Except ConfigFault Unit
  | [] => .ok ()
  | (_, v) :: rest => do
    let _ ← tomlSetting origin v
    checkItems origin rest

/-- Accepts tables, of which the last one stands first, if all of them can be
settings. -/
def checkTables (origin : Text) :
    List (List (Text × Nat × Toml.Value)) → Except ConfigFault Unit
  | [] => .ok ()
  | entries :: before => do
    checkTables origin before
    let _ ← tomlSettings origin entries
    return ()

/-- The entries of a table as settings. -/
def tomlSettings (origin : Text) :
    List (Text × Nat × Toml.Value) → Except ConfigFault (List (Text × Setting))
  | [] => .ok []
  | (key, _, v) :: rest => do
    let setting ← tomlSetting origin v
    return (key, setting) :: (← tomlSettings origin rest)

end

mutual

/-- A value of a file as a setting. -/
def jsonSetting (origin : Text) : Json.Value → Setting
  | .null => .scalar origin .absent
  | .boolean b => .scalar origin (.boolean b)
  | .integer n => .scalar origin (.integer n)
  | .float x => .scalar origin (.float x)
  | .text t => .scalar origin (.text t)
  | .list _ => .list (some origin)
  | .object pairs => .map (jsonSettings origin pairs)

/-- The pairs of an object as settings. -/
def jsonSettings (origin : Text) : List (Text × Json.Value) → Settings
  | [] => []
  | (key, v) :: rest => (key, jsonSetting origin v) :: jsonSettings origin rest

end

/-- The wording for a file that is not what its format asks for; `rest` is the text
from the fault on. -/
def malformedMessage (origin source rest : Text) : Text :=
  let place := Location.start.after (source.take (source.length - rest.length))
  "expected value at line ".toList ++ Text.ofNat place.line ++ " column ".toList
    ++ Text.ofNat place.column ++ " in ".toList ++ origin

/-- The settings that the text of a file holds. -/
def settings [ForeignSettings] (format : FileFormat) (origin source : Text) :
    Except ConfigFault Settings :=
  match format with
  | toml =>
    match Toml.parse .lenient source with
    | .ok entries => tomlSettings origin entries
    | .error fault => .error (.malformedSource fault)
  | json =>
    match Json.parse source with
    | .ok (.object pairs) => .ok (jsonSettings origin pairs)
    | .ok _ => .error (.unreadableFile (malformedMessage origin source source))
    | .error rest => .error (.unreadableFile (malformedMessage origin source rest))
  | foreign format => ForeignSettings.read format origin source

/-- The text of a file without the mark of its byte order; damaged characters are
replaced. -/
def sourceText (bytes : ByteArray) : Text :=
  let text := Text.ofDamagedUtf8 (bytes.toList.map UInt8.toNat)
  (Toml.dropMark text).2

end FileFormat

end TableScaffold
