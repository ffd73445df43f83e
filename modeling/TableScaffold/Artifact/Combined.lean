import TableScaffold.Artifact.Kind

/-!
# Combined files

A combined file collects one snippet for each table, in the order of the tables.
-/

namespace TableScaffold

/-- The snippets of one kind that have been collected so far. -/
structure Combined where
  kind : ArtifactKind
  snippets : List Text := []
  deriving DecidableEq, Repr

namespace Combined

/-- No snippet yet. -/
def empty (kind : ArtifactKind) : Combined := { kind }

/-- Adds a snippet behind the others. -/
def push (c : Combined) (snippet : Text) : Combined :=
  { c with snippets := c.snippets ++ [snippet] }

/-- The number of snippets. -/
def size (c : Combined) : Nat := c.snippets.length

/-- Whether there is no snippet. -/
def isEmpty (c : Combined) : Bool := c.snippets.isEmpty

/-- The text of the combined file: every snippet with a line feed behind it. -/
def contents (c : Combined) : Text := c.snippets.flatMap (· ++ ['\n'])

@[simp] theorem kind_push (c : Combined) (snippet : Text) : (c.push snippet).kind = c.kind := rfl

@[simp] theorem snippets_push (c : Combined) (snippet : Text) :
    (c.push snippet).snippets = c.snippets ++ [snippet] := rfl

@[simp] theorem contents_push (c : Combined) (snippet : Text) :
    (c.push snippet).contents = c.contents ++ snippet ++ ['\n'] := by
  simp [contents]

end Combined

end TableScaffold
