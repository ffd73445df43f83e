import TableScaffold.Artifact.Combined
import TableScaffold.Artifact.Slots
import TableScaffold.Files.Formatting
import TableScaffold.Table.Schema
import TableScaffold.Template.Source

/-!
# Generating the artifacts of a schema

The tables of a schema are taken one after the other.  For every kind that is
switched on, the file of the table is rendered and written, and its snippet is
kept; when all tables are done, the combined files are written.  Each file is
reported once it is written, and each table once its files are.  The first failure
ends the run, and what was written before it stays.

The texts in which a run tells how far it is, as a log, are no part of its outcome
and are left out; so the level of the log (`Config.logLevel`) changes nothing here.
-/

namespace TableScaffold

/-- What a run has generated. -/
structure Report where
  /-- the names of the tables, in the order of the schema -/
  tables : List Text := []
  /-- the files, in the order in which they are written -/
  files : List Path := []
  deriving DecidableEq, Repr

namespace Report

/-- The report with one more file at its end. -/
def addFile (r : Report) (p : Path) : Report := { r with files := r.files ++ [p] }

/-- The report with one more table at its end. -/
def addTable (r : Report) (table : Text) : Report := { r with tables := r.tables ++ [table] }

end Report

/-- A program that reports what it has generated so far. -/
abbrev Reporting (m : Type → Type) := StateT Report (ExceptT ScaffoldError m)

namespace Config

variable {m : Type → Type} [Monad m] [FileAccess m]

/-- Where the templates come from. -/
def templateSource (c : Config) : TemplateSource :=
  match c.templateDir with
  | some dir => .directory dir
  | none => .builtin

/-- The first kind whose combined file would be overwritten by the file of a table. -/
def collidingKind? (c : Config) (table : Text) : Option ArtifactKind :=
  c.enabledKinds.find? fun k => Path.same (c.artifactPath k table) (c.combinedPath k)

/-- Refuses a table whose file is the combined file of its kind. -/
def checkCollision (c : Config) (table : Text) : ExceptT ScaffoldError m Unit :=
  match c.collidingKind? table with
  | some k => throw (.validation (.collision table k (c.artifactPath k table)))
  | none => pure ()

/-- Whether the file of a path is given to the formatter once it is written. -/
def formats (c : Config) (path : Path) : Bool :=
  c.formatGo && path.extension? = some "go".toList

variable [FormatAccess m]

/-- Writes a file with the directories above it, and has it formatted, unless nothing is
to be written. -/
def writeFile (c : Config) (path : Path) (text : Text) : ExceptT ScaffoldError m Unit := do
  if c.dryRun then return
  if let some dir := path.parent? then
    if let .error fault ← FileAccess.makeDirectories (m := m) dir then throw (.write dir fault)
  if let .error fault ← FileAccess.writeText (m := m) path text then throw (.write path fault)
  if c.formats path then FormatAccess.formatFile (m := m) path

/-- Writes a file and reports it. -/
def reportFile (c : Config) (path : Path) (text : Text) : Reporting m Unit := do
  c.writeFile (m := m) path text
  modify (·.addFile path)

/-- Writes the combined files. -/
def writeCombined (c : Config) (combined : List Combined) : Reporting m Unit :=
  combined.forM fun b => c.reportFile (c.combinedPath b.kind) b.contents

/-- The tables of a schema that are generated. -/
def selected (c : Config) (s : Schema) : List Table :=
  s.tables.filter fun t => c.filter.takes t.name

variable [Template.Engine]

/-- Writes the file of a table and keeps its snippet. -/
def generateKind (c : Config) (t : Table) (combined : Combined) : Reporting m Combined := do
  let slots := combined.kind.slots t c
  let text ← c.templateSource.render (m := m) combined.kind.fileTemplate slots
  c.reportFile (c.artifactPath combined.kind t.name) text
  let snippet ← c.templateSource.render (m := m) combined.kind.snippetTemplate slots
  return combined.push snippet

/-- Generates the files of a table, in the order of the kinds. -/
def generateTable (c : Config) (combined : List Combined) (t : Table) :
    Reporting m (List Combined) := do
  c.checkCollision (m := m) t.name
  let combined ← combined.mapM (c.generateKind t)
  modify (·.addTable t.name)
  return combined

/-- Generates the tables of a schema, and then the combined files. -/
def generateSchema (c : Config) (s : Schema) : Reporting m Unit := do
  let combined ← (c.selected s).foldlM c.generateTable (c.enabledKinds.map Combined.empty)
  if let some e := s.failure then throw (.schema e)
  c.writeCombined combined

/-- Generates the artifacts of a schema, and reports them. -/
def run (c : Config) (sql : Text) : ExceptT ScaffoldError m Report := do
  let (_, report) ← (c.generateSchema (Schema.read sql)).run {}
  return report

/-- Generates the artifacts of the schema file. -/
def generate (c : Config) : ExceptT ScaffoldError m Report := do
  match ← FileAccess.readText (m := m) c.schemaFile with
  | .error fault => throw (.file fault)
  | .ok sql => c.run sql

end Config

end TableScaffold
