import TableScaffold.Template.Piece

/-!
# Built-in templates: proto files

The template of a file and the template of its snippet in the combined file, line
by line.  A template whose last line is empty ends with a line feed.
-/

namespace TableScaffold.Template.Builtin.Proto

open SlotName Piece

/-- The header of the file and the service with its calls. -/
def service : List (List Piece) := [
  line ["syntax = \"proto3\";"],
  line [],
  line ["package ", protoPackage, ";"],
  line [],
  line ["option go_package = \"genproto/", protoPackage, "\";"],
  line [],
  line ["import \"google/protobuf/empty.proto\";"],
  line ["import \"google/protobuf/struct.proto\";"],
  line [],
  line ["service ", entity, "Service \x7b"],
  line ["    rpc Create", entity, "(Create", entity, "Request) returns (", entity, ") \x7b\x7d"],
  line ["    rpc GetByID", entity, "(", entity, "PrimaryKey) returns (", entity, ") \x7b\x7d"],
  line ["    rpc GetList", entity, "(GetList", entity, "Request) returns (GetList", entity,
    "Response) \x7b\x7d"],
  line ["    rpc Update", entity, "(Update", entity, "Request) returns (", entity, ") \x7b\x7d"],
  line ["    rpc UpdatePatch", entity, "(UpdatePatch", entity, "Request) returns (", entity,
    ") \x7b\x7d"],
  line ["    rpc Delete", entity, "(", entity,
    "PrimaryKey) returns (google.protobuf.Empty) \x7b\x7d"],
  line ["\x7d"],
  line []]

/-- The messages of a table: its rows, and what its calls take and answer. -/
def messages : List (List Piece) := [
  line [entityMessage],
  line [],
  line [createMessage],
  line [],
  line [updateMessage],
  line [],
  line ["message ", entity, "PrimaryKey \x7b"],
  line ["    string id = 1;"],
  line ["\x7d"],
  line [],
  line ["message GetList", entity, "Request \x7b"],
  line ["    int64 offset = 1;"],
  line ["    int64 limit = 2;"],
  line ["    string search = 3;"],
  line ["    google.protobuf.Struct filters = 4;"],
  line ["\x7d"],
  line [],
  line ["message GetList", entity, "Response \x7b"],
  line ["    int64 count = 1;"],
  line ["    repeated ", entity, " ", tablePlural, " = 2;"],
  line ["\x7d"],
  line [],
  line ["message UpdatePatch", entity, "Request \x7b"],
  line ["    string id = 1;"],
  line ["    google.protobuf.Struct fields = 2;"],
  line ["\x7d"],
  line []]

/-- The proto file of a table. -/
def lines : List (List Piece) :=
  service ++ messages

/-- The line that the combined proto file holds for a table. -/
def snippetLines : List (List Piece) := [
  line ["import \"", table, ".proto\";"]]

end TableScaffold.Template.Builtin.Proto
