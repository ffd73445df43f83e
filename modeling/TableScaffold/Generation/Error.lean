import TableScaffold.Config.Fault
import TableScaffold.Files.Fault
import TableScaffold.Table.Fault
import TableScaffold.Template.Fault

/-!
# Why nothing, or not everything, is generated
-/

namespace TableScaffold

/-- What can go wrong between the configuration and the last generated file. -/
inductive ScaffoldError where
  /-- the schema is malformed -/
  | schema (error : SchemaError)
  /-- there is no built-in template with this name -/
  | unknownTemplate (name : Text)
  /-- the file of a template cannot be read -/
  | unreadableTemplate (path : Path) (fault : FileFault)
  /-- a template cannot be rendered -/
  | template (failure : Template.Failure)
  /-- a file or its directory cannot be written -/
  | write (path : Path) (fault : FileFault)
  | config (fault : ConfigFault)
  | validation (fault : ValidationFault)
  /-- the schema or a configuration cannot be read -/
  | file (fault : FileFault)
  deriving DecidableEq, Repr

namespace ScaffoldError

/-- The wording for a built-in template that is not there. -/
def unknownTemplateCause : Text := "no embedded template with this name".toList

/-- The wording of an error. -/
def message : ScaffoldError → Text
  | schema e => "Schema error: ".toList ++ e.message
  | unknownTemplate name =>
    "Failed to read template ".toList ++ name ++ ": ".toList ++ unknownTemplateCause
  | unreadableTemplate path fault =>
    "Failed to read template ".toList ++ path ++ ": ".toList ++ fault.message
  | template f =>
    "Failed to render template ".toList ++ f.template ++ ": ".toList ++ f.message
  | write path fault => "Failed to write ".toList ++ path ++ ": ".toList ++ fault.message
  | config fault => "Configuration error: ".toList ++ fault.message
  | validation fault => "Validation error: ".toList ++ fault.message
  | file fault => "IO error: ".toList ++ fault.message

/-- The wording of the error behind an error. -/
def cause? : ScaffoldError → Option Text
  | schema e => some e.message
  | unknownTemplate _ => some unknownTemplateCause
  | unreadableTemplate _ fault => some fault.message
  | write _ fault => some fault.message
  | file fault => some fault.message
  | template _ => none
  | config _ => none
  | validation _ => none

end ScaffoldError

end TableScaffold
