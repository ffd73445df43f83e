import TableScaffold.Artifact.Fragments
import TableScaffold.Artifact.Message
import TableScaffold.Config.Basic
import TableScaffold.Template.SlotName
import TableScaffold.Template.Slots

/-!
# Slots of a table

The values that the templates of each kind are rendered with.  Some slots are
common to all kinds; proto files and repositories have some of their own.
-/

namespace TableScaffold.ArtifactKind

open Template (SlotName)

/-- The slots of every kind. -/
def commonValues (t : Table) (c : Config) : List (SlotName × Text) :=
  let entity := Naming.exported t.name
  [(.entity, entity), (.entityCamel, Naming.goVariable t.name),
    (.entityPlural, Naming.plural entity), (.table, t.name),
    (.tablePlural, Naming.plural t.name), (.route, Naming.route t.name),
    (.idParam, Naming.idParameter t.name), (.goModule, c.goModule),
    (.protoPackage, c.protoPackage)]

/-- The columns that a request to create a row has. -/
def createColumns (t : Table) : List Column := t.withRole .regular

/-- The columns that a request to update a row has, in the order of the table. -/
def updateColumns (t : Table) : List Column :=
  t.columns.filter fun c => c.role = .identity || c.role = .regular

/-- The slots of proto files alone. -/
def messageValues (t : Table) : List (SlotName × Text) :=
  let entity := Naming.exported t.name
  [(.entityMessage, Message.build entity t.columns),
    (.createMessage,
      Message.build ("Create".toList ++ entity ++ "Request".toList) (createColumns t)),
    (.updateMessage,
      Message.build ("Update".toList ++ entity ++ "Request".toList) (updateColumns t))]

/-- The slots of repositories alone. -/
def fragmentValues (f : Fragments) : List (SlotName × Text) :=
  let lines := Text.join ['\n']
  let listed := Text.join ",\n".toList
  [(.insertColumns, listed f.insertColumns), (.insertValues, Text.join ", ".toList f.insertValues),
    (.insertExecArgs, lines f.insertArguments), (.selectColumns, listed f.selectColumns),
    (.updateSet, lines f.updateAssignments), (.updateBindings, lines f.updateParameters),
    (.scanDeclarations, lines f.scanDeclarations), (.scanTargets, lines f.scanTargets),
    (.responseFields, lines f.responseFields)]

/-- The values of the slots of a kind. -/
def slotValues (k : ArtifactKind) (t : Table) (c : Config) : List (SlotName × Text) :=
  commonValues t c ++
    match k with
    | proto => messageValues t
    | handler => []
    | service => []
    | repository => fragmentValues t.fragments

/-- The slots that both templates of a kind are rendered with. -/
def slots (k : ArtifactKind) (t : Table) (c : Config) : Slots :=
  Slots.ofList ((k.slotValues t c).map fun v => (v.1.spelling, v.2))

end TableScaffold.ArtifactKind
