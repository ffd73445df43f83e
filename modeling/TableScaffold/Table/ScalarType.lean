import TableScaffold.Text.Blank
import TableScaffold.Text.Case

/-!
# Scalar types

Every SQL type is mapped to one of six scalar types, which decides the proto
type of its field, the Go type a query scans it into, and the name shown for it.
-/

namespace TableScaffold

/-- The nullable Go wrapper that a column is scanned into. -/
inductive ScanWrapper where
  | string
  | int64
  | float64
  deriving DecidableEq, Repr

namespace ScanWrapper

/-- The name of the wrapper. -/
def name : ScanWrapper → Text
  | string => "NullString".toList
  | int64 => "NullInt64".toList
  | float64 => "NullFloat64".toList

/-- The Go type of a variable of the wrapper. -/
def goType (w : ScanWrapper) : Text := "sql.".toList ++ w.name

/-- The field of the wrapper that holds the scanned value. -/
def accessor : ScanWrapper → Text
  | string => "String".toList
  | int64 => "Int64".toList
  | float64 => "Float64".toList

end ScanWrapper

/-- What a SQL type becomes in generated code. -/
inductive ScalarType where
  | string
  | int32
  | int64
  | double
  | bool
  /-- JSON and every type that is not recognised -/
  | any
  deriving DecidableEq, Repr

namespace ScalarType

/-- The recognised SQL type names, in lower case with single spaces. -/
def recognised : List (Text × ScalarType) :=
  [("uuid", string), ("varchar", string), ("text", string), ("char", string),
    ("character varying", string), ("date", string), ("timestamp", string),
    ("time", string), ("integer", int32), ("int", int32), ("smallint", int32),
    ("number", int32), ("bigint", int64), ("float", double),
    ("double precision", double), ("numeric", double), ("decimal", double),
    ("real", double), ("boolean", bool)].map fun p => (p.1.toList, p.2)

/-- A type name with single spaces between its words and in lower case. -/
def normalise (sqlType : Text) : Text :=
  Text.lowercase (Text.join [' '] (Text.words sqlType))

/-- A type name without one time zone qualifier at its end. -/
def dropTimeZone (name : Text) : Text :=
  match Text.dropSuffix? " without time zone".toList name with
  | some base => base
  | none => (Text.dropSuffix? " with time zone".toList name).getD name

/-- The scalar type of a SQL type; a name that is not recognised is `any`. -/
def ofSql (sqlType : Text) : ScalarType :=
  (recognised.lookup (dropTimeZone (normalise sqlType))).getD any

/-- The type as a listing of a schema shows it. -/
def display : ScalarType → Text
  | string => "string".toList
  | int32 => "int32".toList
  | int64 => "int64".toList
  | double => "double".toList
  | bool => "bool".toList
  | any => "interface\x7b\x7d".toList

/-- The proto3 type of a field. -/
def protoType : ScalarType → Text
  | string => "string".toList
  | int32 => "int32".toList
  | int64 => "int64".toList
  | double => "double".toList
  | bool => "bool".toList
  | any => "string".toList

/-- The wrapper that a column of the type is scanned into. -/
def scanWrapper : ScalarType → ScanWrapper
  | double => .float64
  | int64 => .int64
  | _ => .string

end ScalarType

end TableScaffold
