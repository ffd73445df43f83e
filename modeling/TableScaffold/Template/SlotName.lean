import TableScaffold.Text.Basic

/-!
# The slots of the program's own templates

A template made by a user may name any slot.  The names below are the ones that
have a value when the artifacts of a table are generated.
-/

namespace TableScaffold.Template

/-- A slot that generated artifacts are made with. -/
inductive SlotName where
  | entity
  | entityCamel
  | entityPlural
  | table
  | tablePlural
  | route
  | idParam
  | goModule
  | protoPackage
  | entityMessage
  | createMessage
  | updateMessage
  | insertColumns
  | insertValues
  | insertExecArgs
  | selectColumns
  | updateSet
  | updateBindings
  | scanDeclarations
  | scanTargets
  | responseFields
  deriving DecidableEq, Repr

namespace SlotName

/-- A slot's name as a template spells it. -/
def spelling : SlotName → Text
  | entity => "entity".toList
  | entityCamel => "entity_camel".toList
  | entityPlural => "entity_plural".toList
  | table => "table".toList
  | tablePlural => "table_plural".toList
  | route => "route".toList
  | idParam => "id_param".toList
  | goModule => "go_module".toList
  | protoPackage => "proto_package".toList
  | entityMessage => "entity_message".toList
  | createMessage => "create_message".toList
  | updateMessage => "update_message".toList
  | insertColumns => "insert_columns".toList
  | insertValues => "insert_values".toList
  | insertExecArgs => "insert_exec_args".toList
  | selectColumns => "select_columns".toList
  | updateSet => "update_set".toList
  | updateBindings => "update_bindings".toList
  | scanDeclarations => "scan_declarations".toList
  | scanTargets => "scan_targets".toList
  | responseFields => "response_fields".toList

/-- Two slots with one spelling are one slot. -/
theorem spelling_injective {m n : SlotName} (h : m.spelling = n.spelling) : m = n := by
  revert h
  cases m <;> cases n <;> decide

end SlotName

end TableScaffold.Template
