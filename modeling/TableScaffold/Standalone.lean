import TableScaffold.Config.ForeignSettings
import TableScaffold.Files.Formatting
import TableScaffold.Template.Part

/-!
# The program on its own

What the program leaves to others, as it is where there is nobody else: there is no
formatter, a template that is made of more than slots has no value, and settings are
read only from the formats for which there is a reader here.

These are the instances with which the program is compiled.  What is proved of the
program holds with any other formatter, template engine and reader as well.
-/

namespace TableScaffold

/-- No formatter. -/
instance (priority := low) GoFormatter.absent : GoFormatter where
  format? _ _ := none

/-- An engine that fails where a template is made of more than slots. -/
instance (priority := low) Template.Engine.slotsOnly : Template.Engine where
  render _ template slots := Template.fillTemplate template slots

/-- A reader that refuses every file. -/
instance (priority := low) ForeignSettings.absent : ForeignSettings where
  read _ origin _ := .error (.unreadableFile ("no reader for ".toList ++ origin))

end TableScaffold
