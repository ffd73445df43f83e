import TableScaffold.Text.Basic

/-!
# Slots

The named values that a template is rendered with.  A name has one value; giving
it another one replaces the first.
-/

namespace TableScaffold

/-- Named values, in the order in which their names were first given. -/
structure Slots where
  entries : List (Text × Text) := []
  deriving DecidableEq, Repr

namespace Slots

/-- No value at all. -/
def empty : Slots := {}

/-- The entries with one value given or replaced. -/
def insertEntry (name value : Text) : List (Text × Text) → List (Text × Text)
  | [] => [(name, value)]
  | (k, v) :: rest =>
    if k = name then (name, value) :: rest else (k, v) :: insertEntry name value rest

/-- Gives a name a value. -/
def insert (s : Slots) (name value : Text) : Slots := ⟨insertEntry name value s.entries⟩

/-- Gives several names their values, one after the other. -/
def insertAll (s : Slots) (values : List (Text × Text)) : Slots :=
  values.foldl (fun s v => s.insert v.1 v.2) s

/-- The slots with the given values; of two values for one name the later one
counts. -/
def ofList (values : List (Text × Text)) : Slots := empty.insertAll values

/-- The value of a name. -/
def get? (s : Slots) (name : Text) : Option Text := s.entries.lookup name

/-- The number of names that have a value. -/
def size (s : Slots) : Nat := s.entries.length

/-- Whether no name has a value. -/
def isEmpty (s : Slots) : Bool := s.entries.isEmpty

theorem lookup_insertEntry (name value other : Text) (es : List (Text × Text)) :
    (insertEntry name value es).lookup other
      = if other = name then some value else es.lookup other := by
  induction es with
  | nil => simp [insertEntry]
  | cons e rest ih =>
    obtain ⟨k, v⟩ := e
    by_cases hk : k = name
    · subst hk
      by_cases h : other = k
      · simp [insertEntry, h]
      · simp [insertEntry, List.lookup_cons, h, beq_eq_false_iff_ne.mpr h]
    · by_cases h : other = k
      · subst h
        simp [insertEntry, hk]
      · simp [insertEntry, List.lookup_cons, hk, beq_eq_false_iff_ne.mpr h, ih]

/-- A value given to a name is the value of that name, and of no other. -/
@[simp] theorem get?_insert (s : Slots) (name value other : Text) :
    (s.insert name value).get? other = if other = name then some value else s.get? other :=
  lookup_insertEntry name value other s.entries

@[simp] theorem get?_empty (name : Text) : empty.get? name = none := rfl

end Slots

end TableScaffold
