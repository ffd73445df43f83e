import TableScaffold.Text.Basic

/-!
# Kinds of artifacts

Four files are generated for a table.  Every kind of file also has one combined
file with a snippet for each table.
-/

namespace TableScaffold

/-- A kind of generated file. -/
inductive ArtifactKind where
  | proto
  | handler
  | service
  | repository
  deriving DecidableEq, Repr

namespace ArtifactKind

/-- All kinds, in the order of generation. -/
def all : List ArtifactKind := [proto, handler, service, repository]

theorem mem_all (k : ArtifactKind) : k ∈ all := by cases k <;> decide

/-- The name of a kind. -/
def name : ArtifactKind → Text
  | proto => "proto".toList
  | handler => "handler".toList
  | service => "service".toList
  | repository => "repository".toList

/-- The directory of a kind below the output directory, unless another one is
configured. -/
def subdirectory : ArtifactKind → Text
  | proto => "protos".toList
  | handler => "handlers".toList
  | service => "service".toList
  | repository => "storage".toList

/-- The extension of the files of a kind. -/
def extension : ArtifactKind → Text
  | proto => "proto".toList
  | _ => "go".toList

/-- The file name of the template for the file of a table. -/
def fileTemplate (k : ArtifactKind) : Text := k.name ++ ".tmpl".toList

/-- The file name of the template for the snippet of a table. -/
def snippetTemplate (k : ArtifactKind) : Text := k.name ++ "_aggregate.tmpl".toList

/-- The name of the combined file of a kind. -/
def combinedFile (protoPackage : Text) : ArtifactKind → Text
  | proto => protoPackage ++ ".proto".toList
  | handler => "api.go".toList
  | service => "services.go".toList
  | repository => "storage.go".toList

end ArtifactKind

/-- A value for each kind of artifact. -/
structure PerKind (α : Type) where
  proto : α
  handler : α
  service : α
  repository : α
  deriving DecidableEq, Repr

namespace PerKind

variable {α : Type}

/-- One value for all kinds. -/
def const (a : α) : PerKind α := ⟨a, a, a, a⟩

/-- The values that a function gives the kinds. -/
def ofFunction (f : ArtifactKind → α) : PerKind α :=
  ⟨f .proto, f .handler, f .service, f .repository⟩

/-- The value of a kind. -/
def get (v : PerKind α) : ArtifactKind → α
  | .proto => v.proto
  | .handler => v.handler
  | .service => v.service
  | .repository => v.repository

/-- The same values, but for one kind. -/
def set (v : PerKind α) (k : ArtifactKind) (a : α) : PerKind α :=
  ofFunction fun other => if other = k then a else v.get other

@[simp] theorem get_const (a : α) (k : ArtifactKind) : (const a).get k = a := by
  cases k <;> rfl

@[simp] theorem get_ofFunction (f : ArtifactKind → α) (k : ArtifactKind) :
    (ofFunction f).get k = f k := by
  cases k <;> rfl

@[simp] theorem get_set (v : PerKind α) (k other : ArtifactKind) (a : α) :
    (v.set k a).get other = if other = k then a else v.get other := by
  simp [set]

end PerKind

end TableScaffold
