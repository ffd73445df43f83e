import TableScaffold.Artifact.Kind
import TableScaffold.Path
import TableScaffold.Text.Printable
import TableScaffold.Toml.Fault
import TableScaffold.Toml.Numeral

/-!
# Why a configuration cannot be used

A configuration cannot be loaded because of its sources, or it is loaded and asks
for something that cannot be done.
-/

namespace TableScaffold

/-- A value that a field cannot take. -/
inductive UnfitValue where
  /-- a text, in the form in which it was compared -/
  | text (t : Text)
  | list
  | map
  /-- no value at all -/
  | absent
  deriving DecidableEq, Repr

/-- The wording of a value that does not fit. -/
def UnfitValue.display : UnfitValue → Text
  | text t => "string ".toList ++ Text.quoted t
  | list => "sequence".toList
  | map => "map".toList
  | absent => "unit value".toList

/-- What a field takes. -/
inductive FieldType where
  | text
  | boolean
  deriving DecidableEq, Repr

/-- The wording of what a field takes. -/
def FieldType.display : FieldType → Text
  | text => "a string".toList
  | boolean => "a boolean".toList

/-- Why the sources of a configuration cannot be read. -/
inductive ConfigFault where
  /-- a file that is read on its own is malformed, or a value in it has a wrong type -/
  | malformedFile (path : Path) (fault : Toml.Fault Location)
  /-- a file among other sources is malformed -/
  | malformedSource (fault : Toml.Fault Location)
  /-- a number in a file among other sources is out of range -/
  | unreadableNumber (fault : Toml.NumeralFault) (origin : Text)
  /-- there is no such file -/
  | missingFile (path : Path)
  /-- the format of a file is not known -/
  | unknownFormat (path : Path)
  /-- a file cannot be read -/
  | unreadableFile (message : Text)
  /-- a value does not fit its field -/
  | wrongType (value : UnfitValue) (wanted : FieldType) (field : Text) (origin : Option Text)
  deriving DecidableEq, Repr

namespace ConfigFault

/-- The wording of a fault. -/
def message : ConfigFault → Text
  | malformedFile path fault =>
    "Failed to parse config file ".toList ++ path ++ ": ".toList ++ fault.message
  | malformedSource fault => fault.message
  | unreadableNumber fault origin => fault.message ++ " in ".toList ++ origin
  | missingFile path => "configuration file \"".toList ++ path ++ "\" not found".toList
  | unknownFormat path =>
    "configuration file \"".toList ++ path ++ "\" is not of a supported file format".toList
  | unreadableFile message => message
  | wrongType value wanted field origin =>
    "invalid type: ".toList ++ value.display ++ ", expected ".toList ++ wanted.display
      ++ " for key \x60".toList ++ field ++ "\x60".toList
      ++ match origin with
        | some origin => " in ".toList ++ origin
        | none => []

end ConfigFault

/-- Why a configuration is not accepted. -/
inductive ValidationFault where
  | noSchemaFile
  | missingSchemaFile (path : Path)
  | noKind
  | noProtoPackage
  | noGoModule
  | missingTemplateDir (path : Path)
  /-- the file of a table is the combined file of its kind -/
  | collision (table : Text) (kind : ArtifactKind) (path : Path)
  deriving DecidableEq, Repr

/-- The wording of a fault. -/
def ValidationFault.message : ValidationFault → Text
  | noSchemaFile => "schema_file is required".toList
  | missingSchemaFile path => "Schema file not found: ".toList ++ path
  | noKind =>
    "at least one of generate_proto, generate_handlers, generate_services, ".toList
      ++ "generate_repositories must be true".toList
  | noProtoPackage => "proto_package must not be empty".toList
  | noGoModule => "go_module must not be empty".toList
  | missingTemplateDir path => "Template directory not found: ".toList ++ path
  | collision table kind path =>
    "table ".toList ++ table ++ " would overwrite the combined ".toList ++ kind.name
      ++ " file ".toList ++ path

end TableScaffold
