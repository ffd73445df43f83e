import TableScaffold.Files.Access
import TableScaffold.Generation.Error
import TableScaffold.Template.Builtin
import TableScaffold.Template.Part

/-!
# Where templates come from

Templates are built in, or lie in a directory, which is read anew for every
rendering.
-/

namespace TableScaffold

/-- Where templates come from. -/
inductive TemplateSource where
  | builtin
  | directory (dir : Path)
  deriving DecidableEq, Repr

namespace TemplateSource

variable {m : Type → Type} [Monad m] [FileAccess m]

/-- The text of a template. -/
def load (source : TemplateSource) (name : Text) : ExceptT ScaffoldError m Text :=
  match source with
  | builtin =>
    match Template.Builtin.find? name with
    | some text => pure text
    | none => throw (.unknownTemplate name)
  | directory dir => do
    let path := Path.join dir name
    match ← FileAccess.readText (m := m) path with
    | .ok text => pure text
    | .error fault => throw (.unreadableTemplate path fault)

/-- The text that a template makes of the slots. -/
def render [Template.Engine] (source : TemplateSource) (name : Text) (slots : Slots) :
    ExceptT ScaffoldError m Text := do
  match Template.render name (← source.load name) slots with
  | .ok text => pure text
  | .error failure => throw (.template failure)

end TemplateSource

end TableScaffold
