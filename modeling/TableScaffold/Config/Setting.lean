import TableScaffold.Config.Field
import TableScaffold.Config.SettingPath
import TableScaffold.Number.Shortest
import TableScaffold.Text.Case

/-!
# Settings in layers

A source gives settings: values under keys, with a note of where they come from.
Settings of several sources are laid over each other; a later value replaces an
earlier one, and maps are joined.  When the layers are complete, the fields take
their values from them, and values are converted if need be.
-/

namespace TableScaffold

/-- A value that is neither a list nor a map. -/
inductive SettingScalar where
  | text (t : Text)
  | integer (n : Int)
  | float (x : Binary64)
  | boolean (b : Bool)
  | absent
  deriving DecidableEq, Repr

/-- A value and the name of its source.  No field takes a list, so its items are not
kept; a list that a key with an index makes comes from no source. -/
inductive Setting where
  | scalar (origin : Text) (value : SettingScalar)
  | list (origin : Option Text)
  | map (entries : List (Text × Setting))

/-- Values under keys. -/
abbrev Settings := List (Text × Setting)

namespace SettingScalar

/-! ## Conversions -/

/-- The text that a value stands for. -/
def toText? : SettingScalar → Option Text
  | .text t => some t
  | .integer n => some (if n < 0 then '-' :: Text.ofNat n.natAbs else Text.ofNat n.natAbs)
  | .float x => some x.display
  | .boolean b => some (if b then "true".toList else "false".toList)
  | .absent => none

/-- The words for a truth value, in lower case. -/
def truthWords : List (Text × Bool) :=
  [("1", true), ("true", true), ("on", true), ("yes", true),
    ("0", false), ("false", false), ("off", false), ("no", false)].map fun p => (p.1.toList, p.2)

/-- The truth value that a value stands for: a number that is not zero, or one of a
few words. -/
def toBoolean : SettingScalar → Except UnfitValue Bool
  | .boolean b => .ok b
  | .integer n => .ok (n ≠ 0)
  | .float x => .ok (!x.isZero)
  | .text t =>
    match truthWords.lookup (Text.lowercase t) with
    | some b => .ok b
    | none => .error (.text (Text.lowercase t))
  | .absent => .error .absent

end SettingScalar

namespace Settings

/-! ## Layers -/

/-- Puts a value under a key, in place of the one that is there. -/
def put (key : Text) (s : Setting) : Settings → Settings
  | [] => [(key, s)]
  | (k, old) :: rest => if k = key then (key, s) :: rest else (k, old) :: put key s rest

/-- The settings within a value, if it is a map. -/
def inside : Option Setting → Settings
  | some (.map entries) => entries
  | _ => []

mutual

/-- The value that a new one leaves behind over an old one. -/
def overlay (old : Option Setting) : Setting → Setting
  | .map [] => old.getD (.map [])
  | .map (e :: es) => .map (layer (inside old) (e :: es))
  | s => s

/-- Lays settings over others. -/
def layer (below : Settings) : List (Text × Setting) → Settings
  | [] => below
  | (key, s) :: rest => layer (put key (overlay (below.lookup key) s) below) rest

end

/-- The name of the source of a list, if the value is one that has such a name. -/
def listOrigin : Option Setting → Option Text
  | some (.list origin) => origin
  | _ => none

/-- The value that is left when a new one is put where steps lead to from an old one.
What is not a map, or not a list, on the way gives way to one. -/
def setWithin (s : Setting) (old : Option Setting) : List SettingStep → Setting
  | [] => overlay old s
  | .name name :: steps =>
    .map (put name (setWithin s ((inside old).lookup name) steps) (inside old))
  | .item :: _ => .list (listOrigin old)

/-- Puts a value where a path leads. -/
def assign (path : SettingPath) (s : Setting) (settings : Settings) : Settings :=
  put path.root (setWithin s (settings.lookup path.root) path.steps) settings

/-- Lays the settings of a source over others. -/
def addSource (settings source : Settings) : Settings :=
  source.foldl (fun settings e => settings.assign (.ofKey e.1) e.2) settings

/-! ## Fields -/

/-- The fault of a value that a field cannot take. -/
def unfit (f : ConfigField) (value : UnfitValue) (origin : Option Text) : ConfigFault :=
  .wrongType value f.type f.key origin

/-- The configuration with a value that is neither a list nor a map in a field. -/
def setScalar (f : ConfigField) (origin : Text) (value : SettingScalar) (c : Config) :
    Except ConfigFault Config :=
  if value = .absent && f.isOptional then .ok c
  else
    match f.type with
    | .text =>
      match value.toText? with
      | some t => .ok (f.setText t c)
      | none => .error (unfit f .absent (some origin))
    | .boolean =>
      match value.toBoolean with
      | .ok b => .ok (f.setBoolean b c)
      | .error value => .error (unfit f value (some origin))

/-- The configuration with the value of a field taken from the settings, if they
have one. -/
def setField (settings : Settings) (c : Config) (f : ConfigField) : Except ConfigFault Config :=
  match settings.lookup f.key with
  | none => .ok c
  | some (.scalar origin value) => setScalar f origin value c
  | some (.list origin) => .error (unfit f .list origin)
  | some (.map _) => .error (unfit f .map none)

/-- The configuration that settings make of the defaults. -/
def toConfig (settings : Settings) : Except ConfigFault Config :=
  ConfigField.all.foldlM settings.setField {}

end Settings

end TableScaffold
