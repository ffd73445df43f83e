import TableScaffold.Template.Fault
import TableScaffold.Template.Slots

/-!
# Templates that are made of more than slots

The templates of a directory may hold statements, such as loops, and expressions
that are made of more than one name or constant.  What becomes of such a template is
up to the template engine, which is left open.
-/

namespace TableScaffold.Template

/-- The engine that renders the templates which are made of more than slots. -/
class Engine where
  /-- the text that a template of the given name makes of the slots, or what is wrong with
  it and on which line -/
  render : (name template : Text) → Slots → Except (Fault × Nat) Text

end TableScaffold.Template
