import TableScaffold.Config.Basic
import TableScaffold.Config.Fault

/-!
# The fields of a configuration

Every source of a configuration names its fields by the same keys.  A field takes a
text or a truth value.
-/

namespace TableScaffold

/-- A field of a configuration. -/
inductive ConfigField where
  | schemaFile
  | outputDir
  | directory (k : ArtifactKind)
  | templateDir
  | includeTables
  | excludeTables
  | enabled (k : ArtifactKind)
  | goModule
  | protoPackage
  | formatGo
  | dryRun
  | logLevel
  deriving DecidableEq, Repr

namespace ConfigField

/-- The key of a field. -/
def key : ConfigField → Text
  | schemaFile => "schema_file".toList
  | outputDir => "output_dir".toList
  | directory k => k.name ++ "_dir".toList
  | templateDir => "template_dir".toList
  | includeTables => "include_tables".toList
  | excludeTables => "exclude_tables".toList
  | enabled .proto => "generate_proto".toList
  | enabled .handler => "generate_handlers".toList
  | enabled .service => "generate_services".toList
  | enabled .repository => "generate_repositories".toList
  | goModule => "go_module".toList
  | protoPackage => "proto_package".toList
  | formatGo => "format_go".toList
  | dryRun => "dry_run".toList
  | logLevel => "log_level".toList

/-- All fields, in the order of their keys. -/
def all : List ConfigField :=
  [dryRun, excludeTables, formatGo, enabled .handler, enabled .proto, enabled .repository,
    enabled .service, goModule, directory .handler, includeTables, logLevel, outputDir,
    directory .proto, protoPackage, directory .repository, schemaFile, directory .service,
    templateDir]

theorem mem_all (f : ConfigField) : f ∈ all := by
  cases f with
  | directory k => cases k <;> decide
  | enabled k => cases k <;> decide
  | _ => decide

/-- What a field takes. -/
def type : ConfigField → FieldType
  | enabled _ => .boolean
  | formatGo => .boolean
  | dryRun => .boolean
  | _ => .text

/-- Whether a field may be without a value. -/
def isOptional : ConfigField → Bool
  | directory _ => true
  | templateDir => true
  | logLevel => true
  | _ => false

/-- The configuration with a text in a field; a field for truth values is left alone. -/
def setText (f : ConfigField) (t : Text) (c : Config) : Config :=
  match f with
  | schemaFile => { c with schemaFile := t }
  | outputDir => { c with outputDir := t }
  | directory k => c.setDirectory k t
  | templateDir => { c with templateDir := some t }
  | includeTables => { c with includeTables := t }
  | excludeTables => { c with excludeTables := t }
  | goModule => { c with goModule := t }
  | protoPackage => { c with protoPackage := t }
  | logLevel => { c with logLevel := some t }
  | _ => c

/-- The configuration with a truth value in a field; a field for texts is left alone. -/
def setBoolean (f : ConfigField) (b : Bool) (c : Config) : Config :=
  match f with
  | enabled k => c.setEnabled k b
  | formatGo => { c with formatGo := b }
  | dryRun => { c with dryRun := b }
  | _ => c

end ConfigField

end TableScaffold
