import TableScaffold.Config.Setting

/-!
# Settings from the environment

A variable whose name begins with the program's mark, in letters of any case, is a
setting.  A double underscore in the rest of its name stands for a step into a map.
The text of a variable is a truth value, an integer or a number if it reads as one.
-/

namespace TableScaffold

/-- Variables of an environment: names with their texts. -/
abbrev Environment := List (Text × Text)

namespace Environment

/-- The mark of the program's variables, in lower case. -/
def mark : Text := "crudgen_".toList

/-- The name of the source. -/
def origin : Text := "the environment".toList

/-- A text with a dot in place of every two underscores. -/
def dotted : Text → Text
  | '_' :: '_' :: r => '.' :: dotted r
  | c :: r => c :: dotted r
  | [] => []

/-- The key that a variable sets, if it is one of the program's. -/
def key? (name : Text) : Option Text :=
  (Text.dropPrefix? mark (Text.lowercase name)).map dotted

/-- The value of a variable. -/
def value (t : Text) : SettingScalar :=
  if Text.lowercase t = "true".toList then .boolean true
  else if Text.lowercase t = "false".toList then .boolean false
  else
    match (Binary64.integer? t).filter fun n => -Int.pow 2 63 ≤ n && n < Int.pow 2 63 with
    | some n => .integer n
    | none =>
      match Binary64.ofText? t with
      | some x => .float x
      | none => .text t

/-- The settings of an environment. -/
def settings (e : Environment) : Settings :=
  e.filterMap fun v => (key? v.1).map fun key => (key, .scalar origin (value v.2))

end Environment

end TableScaffold
