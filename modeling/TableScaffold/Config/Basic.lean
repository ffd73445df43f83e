import TableScaffold.Artifact.Kind
import TableScaffold.Path
import TableScaffold.Table.Filter

/-!
# Configuration

What to read, what to generate, and where to put it.  Every field has a default,
so a configuration is complete whatever its sources leave out.
-/

namespace TableScaffold

/-- A complete configuration. -/
structure Config where
  /-- the file with the table definitions -/
  schemaFile : Path := []
  /-- the directory above those of the kinds -/
  outputDir : Path := "./generates".toList
  /-- the directories of the kinds that do not lie below the output directory -/
  directories : PerKind (Option Path) := .const none
  /-- the directory with templates in place of the built-in ones -/
  templateDir : Option Path := none
  /-- names with commas between them, or `*` for all -/
  includeTables : Text := ['*']
  excludeTables : Text := []
  /-- which kinds are generated -/
  enabled : PerKind Bool := .const true
  /-- the module that generated code imports -/
  goModule : Text := "warehouse/warehouse_go_storehouse_service".toList
  /-- the package of the generated messages -/
  protoPackage : Text := "storehouse_service".toList
  /-- whether generated code is to be formatted -/
  formatGo : Bool := false
  /-- whether nothing is written -/
  dryRun : Bool := false
  /-- how much is logged -/
  logLevel : Option Text := none
  deriving DecidableEq, Repr

namespace Config

/-! ## Kinds -/

/-- Whether a kind is generated. -/
def isEnabled (c : Config) (k : ArtifactKind) : Bool := c.enabled.get k

/-- The kinds that are generated, in the order of generation. -/
def enabledKinds (c : Config) : List ArtifactKind := ArtifactKind.all.filter c.isEnabled

/-- Switches a kind on or off. -/
def setEnabled (c : Config) (k : ArtifactKind) (on : Bool) : Config :=
  { c with enabled := c.enabled.set k on }

/-- Switches every kind but one off, and that one on. -/
def only (c : Config) (k : ArtifactKind) : Config :=
  { c with enabled := .ofFunction (· = k) }

@[simp] theorem isEnabled_setEnabled (c : Config) (k other : ArtifactKind) (on : Bool) :
    (c.setEnabled k on).isEnabled other = if other = k then on else c.isEnabled other := by
  simp [isEnabled, setEnabled]

@[simp] theorem isEnabled_only (c : Config) (k other : ArtifactKind) :
    (c.only k).isEnabled other = decide (other = k) := by
  simp [isEnabled, only]

/-- Exactly one kind is left. -/
@[simp] theorem enabledKinds_only (c : Config) (k : ArtifactKind) :
    (c.only k).enabledKinds = [k] := by
  cases k <;> rfl

/-! ## Places -/

/-- Gives a kind a directory of its own. -/
def setDirectory (c : Config) (k : ArtifactKind) (dir : Path) : Config :=
  { c with directories := c.directories.set k (some dir) }

/-- The directory of a kind. -/
def artifactDir (c : Config) (k : ArtifactKind) : Path :=
  (c.directories.get k).getD (Path.join c.outputDir k.subdirectory)

/-- The file of a table. -/
def artifactPath (c : Config) (k : ArtifactKind) (table : Text) : Path :=
  Path.join (c.artifactDir k) (table ++ '.' :: k.extension)

/-- The name of the combined file of a kind. -/
def combinedFile (c : Config) (k : ArtifactKind) : Text := k.combinedFile c.protoPackage

/-- The combined file of a kind. -/
def combinedPath (c : Config) (k : ArtifactKind) : Path :=
  Path.join (c.artifactDir k) (c.combinedFile k)

/-! ## Tables -/

/-- The default configuration for a schema. -/
def forSchema (schemaFile : Path) : Config := { schemaFile }

/-- Generates the given tables only. -/
def includeOnly (c : Config) (tables : List Text) : Config :=
  { c with includeTables := Text.join [','] tables }

/-- Leaves the given tables out. -/
def excludeAll (c : Config) (tables : List Text) : Config :=
  { c with excludeTables := Text.join [','] tables }

/-- Which tables are generated. -/
def filter (c : Config) : TableFilter := .ofLists c.includeTables c.excludeTables

end Config

end TableScaffold
