import TableScaffold.Config.Basic
import TableScaffold.Files.Access
import TableScaffold.Generation.Error
import TableScaffold.Text.Blank

/-!
# Accepting a configuration

A configuration is accepted if its schema file is there, something is to be
generated, its names are not blank, and its template directory, if it has one, is
there.  The first of these that fails is reported.
-/

namespace TableScaffold.Config

variable {m : Type → Type} [Monad m] [FileAccess m]

/-- Fails unless a condition holds. -/
def require (condition : Bool) (fault : ValidationFault) : ExceptT ScaffoldError m Unit :=
  if condition then pure () else throw (.validation fault)

/-- Accepts a configuration, or says why not. -/
def validate (c : Config) : ExceptT ScaffoldError m Unit := do
  require (!c.schemaFile.isEmpty) .noSchemaFile
  require (← FileAccess.isPresent (m := m) c.schemaFile) (.missingSchemaFile c.schemaFile)
  require (!c.enabledKinds.isEmpty) .noKind
  require (!(Text.trim c.protoPackage).isEmpty) .noProtoPackage
  require (!(Text.trim c.goModule).isEmpty) .noGoModule
  if let some dir := c.templateDir then
    require (← FileAccess.isDirectory (m := m) dir) (.missingTemplateDir dir)

end TableScaffold.Config
