import TableScaffold.Artifact.Kind
import TableScaffold.Template.Builtin.Handler
import TableScaffold.Template.Builtin.Proto
import TableScaffold.Template.Builtin.Repository
import TableScaffold.Template.Builtin.Service

/-!
# Built-in templates

Every kind of artifact has a template for the file of a table and one for the
snippet of a table in the combined file.  `find?` looks them up by file name.
-/

namespace TableScaffold.Template.Builtin

/-- The lines of the template for the file of a table. -/
def fileLines : ArtifactKind → List (List Piece)
  | .proto => Proto.lines
  | .handler => Handler.lines
  | .service => Service.lines
  | .repository => Repository.lines

/-- The lines of the template for the snippet of a table. -/
def snippetLines : ArtifactKind → List (List Piece)
  | .proto => Proto.snippetLines
  | .handler => Handler.snippetLines
  | .service => Service.snippetLines
  | .repository => Repository.snippetLines

/-- All built-in templates with their file names. -/
def all : List (Text × Text) :=
  ArtifactKind.all.flatMap fun k =>
    [(k.fileTemplate, sourceOfLines (fileLines k)),
      (k.snippetTemplate, sourceOfLines (snippetLines k))]

/-- The built-in template with a file name. -/
def find? (name : Text) : Option Text := all.lookup name

end TableScaffold.Template.Builtin
