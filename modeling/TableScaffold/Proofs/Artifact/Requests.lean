import TableScaffold.Proofs.Artifact.Alignment
import TableScaffold.Proofs.Artifact.MessageRows

set_option autoImplicit false

/-!
# Messages have the fields that repositories ask for

The messages of a table and the lists of its repository are made apart from each other.  They
still agree on the columns: a row is created from the columns that its message has
(`Table.regularColumns`), and updated from those and the identity (`Table.changedColumns`);
what is selected and answered is in the message of the row (`messages_meet_repository`).
-/

namespace TableScaffold

open Template

/-! ## Columns by name -/

namespace Role

/-- The names of a row's key and of its own columns are those of no timestamps. -/
theorem ofName_eq_identity_or_regular {name : Text} : ofName name = identity ∨ ofName name = regular
    ↔ name ≠ createdAtName ∧ name ≠ updatedAtName := by
  have hcreated : identityName ≠ createdAtName := by decide
  have hupdated : identityName ≠ updatedAtName := by decide
  rw [ofName_eq_identity, ofName_eq_regular, conventionalNames]
  constructor
  · intro h
    rcases h with rfl | h
    · exact ⟨hcreated, hupdated⟩
    · simpa using (List.not_mem_of_not_mem_cons h)
  · intro h
    by_cases hname : name = identityName
    · exact .inl hname
    · exact .inr (by simp [hname, h])

end Role

namespace Table

variable (t : Table)

/-- The columns that a row is found by. -/
def identityColumns : List Column := t.columns.filter (·.name = Role.identityName)

/-- The columns that a row is found by or that are set in it: all but the timestamps. -/
def changedColumns : List Column :=
  t.columns.filter fun c => c.name ≠ Role.createdAtName ∧ c.name ≠ Role.updatedAtName

theorem withRole_identity : t.withRole .identity = t.identityColumns := by
  unfold withRole identityColumns Column.role
  simp only [Role.ofName_eq_identity]

theorem createColumns_eq : ArtifactKind.createColumns t = t.regularColumns :=
  t.withRole_regular

theorem updateColumns_eq : ArtifactKind.updateColumns t = t.changedColumns := by
  unfold ArtifactKind.updateColumns changedColumns Column.role
  simp only [← Bool.decide_or, Role.ofName_eq_identity_or_regular]

/-- The columns of an update that do not find the row are those of an insert. -/
theorem filter_changedColumns :
    t.changedColumns.filter (·.name ≠ Role.identityName) = t.regularColumns := by
  unfold changedColumns regularColumns
  rw [List.filter_filter]
  refine List.filter_congr fun c _ => ?_
  rw [← Bool.decide_and, decide_eq_decide]
  simp [Role.conventionalNames]

theorem map_bound (line : Binding → Text) : t.bound.map line
    = (t.identityColumns ++ t.regularColumns).map fun c => line (Binding.ofColumn c) := by
  rw [bound, withRole_identity, regular_eq, ← List.map_append, List.map_map]
  rfl

end Table

/-! ## Lines by column -/

namespace Binding

/-! Every line is some code with a few tabs in front of it. -/

variable (x : Column)

theorem columnLine_eq : (ofColumn x).columnLine = List.replicate 3 '\t' ++ x.name := by
  unfold columnLine ofColumn
  simp (disch := exact rfl) only [toList_of_eq_ofList]
  rfl

theorem argumentLine_eq : (ofColumn x).argumentLine = List.replicate 2 '\t'
    ++ ("req.Get".toList ++ Naming.exported x.name ++ "(),".toList) := by
  unfold argumentLine ofColumn
  simp (disch := exact rfl) only [toList_of_eq_ofList, List.cons_append, List.nil_append]
  rfl

theorem assignmentLine_eq : (ofColumn x).assignmentLine = List.replicate 3 '\t'
    ++ (x.name ++ " = :".toList ++ x.name ++ [',']) := by
  unfold assignmentLine ofColumn
  simp (disch := exact rfl) only [toList_of_eq_ofList, List.append_assoc, List.cons_append,
    List.nil_append]
  rfl

theorem parameterLine_eq : (ofColumn x).parameterLine = List.replicate 2 '\t'
    ++ (['"'] ++ x.name ++ "\": req.Get".toList ++ Naming.exported x.name ++ "(),".toList) := by
  unfold parameterLine ofColumn
  simp (disch := exact rfl) only [toList_of_eq_ofList, List.append_assoc, List.cons_append,
    List.nil_append]
  rfl

theorem responseLine_eq : (ofColumn x).responseLine = List.replicate 2 '\t'
    ++ (Naming.exported x.name ++ ": ".toList ++ Naming.goVariable x.name
      ++ '.' :: x.scalar.scanWrapper.accessor ++ [',']) := by
  unfold responseLine ofColumn
  simp (disch := exact rfl) only [toList_of_eq_ofList, List.append_assoc, List.cons_append,
    List.nil_append]
  rfl

end Binding

/-! ## Slots by column -/

/-- A slot of a kind of artifact is filled with a text. -/
def ArtifactKind.Fills (k : ArtifactKind) (t : Table) (c : Config) (n : SlotName) (text : Text) :
    Prop :=
  (k.slots t c).get? n.spelling = some text

/-- A slot of the repository is filled with one line of code for each of some columns. -/
def Table.Lists (t : Table) (c : Config) (n : SlotName) (separator : Text) (tabs : Nat)
    (columns : List Column) (code : Column → Text) : Prop :=
  ArtifactKind.repository.Fills t c n
    (Text.join separator (columns.map fun x => List.replicate tabs '\t' ++ code x))

/-- A slot of the messages is filled with a message that has one field for each of some
columns. -/
def Table.HasFields (t : Table) (c : Config) (n : SlotName) (message : Text)
    (columns : List Column) : Prop :=
  ∃ text, ArtifactKind.proto.Fills t c n text ∧ Message.HasFields text message columns

/-- The messages of a table and the lists of its repository, column by column. -/
structure Table.MessagesMeetRepository (t : Table) (c : Config) : Prop where
  /-- a request to create a row has the fields that the insert gets from it -/
  created : t.HasFields c .createMessage
    ("Create".toList ++ Naming.exported t.name ++ "Request".toList) t.regularColumns
  arguments : t.Lists c .insertExecArgs ['\n'] 2 t.regularColumns fun x =>
    "req.Get".toList ++ Naming.exported x.name ++ "(),".toList
  /-- but for the identity, a request to update a row has the fields that the update sets -/
  updated : t.HasFields c .updateMessage
    ("Update".toList ++ Naming.exported t.name ++ "Request".toList) t.changedColumns
  assignments : t.Lists c .updateSet ['\n'] 3
    (t.changedColumns.filter (·.name ≠ Role.identityName)) fun x =>
      x.name ++ " = :".toList ++ x.name ++ [',']
  parameters : t.Lists c .updateBindings ['\n'] 2
    (t.changedColumns.filter (·.name ≠ Role.identityName)) fun x =>
      ['"'] ++ x.name ++ "\": req.Get".toList ++ Naming.exported x.name ++ "(),".toList
  /-- a row has all columns as fields; the identity is selected first, and what is behind it
  is selected and answered in the order of the fields -/
  entity : t.HasFields c .entityMessage (Naming.exported t.name) t.columns
  selected : t.Lists c .selectColumns ",\n".toList 3 (t.identityColumns ++ t.regularColumns)
    (·.name)
  answered : t.Lists c .responseFields ['\n'] 2 t.regularColumns fun x =>
    Naming.exported x.name ++ ": ".toList ++ Naming.goVariable x.name
      ++ '.' :: x.scalar.scanWrapper.accessor ++ [',']
  identity : t.identityColumns.Sublist t.columns
    ∧ ∀ x ∈ t.identityColumns, x.name = Role.identityName
  others : t.regularColumns.Sublist t.columns ∧ ∀ x ∈ t.regularColumns, x.name ≠ Role.identityName
  /-- no request has a timestamp -/
  untimed : ∀ x ∈ t.regularColumns ++ t.changedColumns,
    x.name ≠ Role.createdAtName ∧ x.name ≠ Role.updatedAtName

namespace Table

variable (t : Table) (c : Config)

theorem fills_of_lookup {k : ArtifactKind} {n : SlotName} {text : Text}
    (h : (k.slotValues t c).reverse.lookup n = some text) : k.Fills t c n text :=
  (k.get?_slots t c n).trans h

theorem lists_of_lookup {n : SlotName} {separator : Text} {tabs : Nat} {columns : List Column}
    {code : Column → Text} {line : Binding → Text} {lines : List Text}
    (h : (ArtifactKind.repository.slotValues t c).reverse.lookup n
      = some (Text.join separator lines))
    (hlines : lines = columns.map fun x => line (Binding.ofColumn x))
    (hline : ∀ x, line (Binding.ofColumn x) = List.replicate tabs '\t' ++ code x) :
    t.Lists c n separator tabs columns code := by
  rw [hlines, funext hline] at h
  exact t.fills_of_lookup c h

theorem hasFields_of_lookup {n : SlotName} {message : Text} {columns columns' : List Column}
    (h : (ArtifactKind.proto.slotValues t c).reverse.lookup n
      = some (Message.build message columns)) (hcolumns : columns = columns') :
    t.HasFields c n message columns' := by
  rw [hcolumns] at h
  exact ⟨_, t.fills_of_lookup c h, Message.hasFields_build message columns'⟩

theorem not_timestamp_of_mem {x : Column} (h : x ∈ t.regularColumns ++ t.changedColumns) :
    x.name ≠ Role.createdAtName ∧ x.name ≠ Role.updatedAtName := by
  rw [← filter_changedColumns] at h
  have hchanged : x ∈ t.changedColumns :=
    (List.mem_append.mp h).elim List.mem_of_mem_filter id
  exact of_decide_eq_true (List.mem_filter.mp hchanged).2

/-- The messages of a table and its repository agree on the columns of the table. -/
theorem messages_meet_repository : t.MessagesMeetRepository c where
  created := t.hasFields_of_lookup c rfl t.createColumns_eq
  arguments := t.lists_of_lookup c rfl (map_regular _) Binding.argumentLine_eq
  updated := t.hasFields_of_lookup c rfl t.updateColumns_eq
  assignments := by
    rw [filter_changedColumns]
    exact t.lists_of_lookup c rfl (map_regular _) Binding.assignmentLine_eq
  parameters := by
    rw [filter_changedColumns]
    exact t.lists_of_lookup c rfl (map_regular _) Binding.parameterLine_eq
  entity := t.hasFields_of_lookup c rfl rfl
  selected := t.lists_of_lookup c rfl (t.map_bound _) fun x => Binding.columnLine_eq x
  answered := t.lists_of_lookup c rfl (map_regular _) Binding.responseLine_eq
  identity := ⟨List.filter_sublist, fun _ hx => of_decide_eq_true (List.mem_filter.mp hx).2⟩
  others := by
    refine ⟨List.filter_sublist, fun x hx hname => ?_⟩
    rw [← filter_changedColumns] at hx
    exact of_decide_eq_true (List.mem_filter.mp hx).2 hname
  untimed _ hx := t.not_timestamp_of_mem hx

end Table

end TableScaffold
