import Mathlib.Data.List.Forall2
import Mathlib.Tactic.SplitIfs
import TableScaffold.Proofs.Artifact.Repository
import TableScaffold.Standalone

set_option autoImplicit false

/-!
# The statements of a repository line up

Every list of a repository is made from the columns of the table in one order, the identity
first.  So in the insert each column meets its own placeholder and its own argument
(`Table.insert_lines_up`), in a select its own variable, declaration and field
(`Table.select_lines_up`), and the creation time is in none of the lists
(`Table.fragments_areAbout`).  `repository_lines_up` says so of the rendered text.
-/

namespace TableScaffold

open Template

/-- A line of code, indented by tabs. -/
def IsIndented (code line : Text) : Prop := ∃ n, line = List.replicate n '\t' ++ code

/-! ## Columns by name -/

namespace Role

/-- The names that decide a role. -/
def conventionalNames : List Text := [identityName, createdAtName, updatedAtName]

theorem ofName_eq_identity {name : Text} : ofName name = identity ↔ name = identityName := by
  unfold ofName
  split_ifs <;> simp_all

theorem ofName_eq_updatedAt {name : Text} : ofName name = updatedAt ↔ name = updatedAtName := by
  have hid : identityName ≠ updatedAtName := by decide
  have hcreated : createdAtName ≠ updatedAtName := by decide
  unfold ofName
  split_ifs <;> simp_all

theorem ofName_eq_regular {name : Text} : ofName name = regular ↔ name ∉ conventionalNames := by
  unfold ofName conventionalNames
  split_ifs <;> simp_all

theorem ofName_ne_createdAt {name : Text} : ofName name ≠ createdAt ↔ name ≠ createdAtName := by
  have hid : identityName ≠ createdAtName := by decide
  unfold ofName
  split_ifs <;> simp_all

end Role

namespace Table

variable (t : Table)

/-- The columns whose names decide no role. -/
def regularColumns : List Column := t.columns.filter (·.name ∉ Role.conventionalNames)

/-- The names of the columns with a placeholder in an insert: the identity leads. -/
def boundNames : List Text := Role.identityName :: t.regularColumns.map (·.name)

theorem withRole_regular : t.withRole .regular = t.regularColumns := by
  unfold withRole regularColumns Column.role
  simp only [Role.ofName_eq_regular]

theorem regular_eq : t.regular = t.regularColumns.map Binding.ofColumn := by
  rw [regular, withRole_regular]

variable {t}

/-- The identity of a table that has one. -/
theorem exists_withRole_identity (hid : t.columns.countP (·.name = Role.identityName) = 1) :
    ∃ c, c.name = Role.identityName ∧ t.withRole .identity = [c] := by
  have hfilter : t.withRole .identity = t.columns.filter (·.name = Role.identityName) := by
    unfold withRole Column.role
    simp only [Role.ofName_eq_identity]
  rw [List.countP_eq_length_filter, ← hfilter, List.length_eq_one_iff] at hid
  obtain ⟨c, hc⟩ := hid
  have hmem : c ∈ t.withRole .identity := by rw [hc]; exact List.mem_singleton_self c
  rw [hfilter, List.mem_filter] at hmem
  exact ⟨c, of_decide_eq_true hmem.2, hc⟩

theorem bound_eq (hid : t.columns.countP (·.name = Role.identityName) = 1) :
    ∃ c, c.name = Role.identityName
      ∧ t.bound = Binding.ofColumn c :: t.regularColumns.map Binding.ofColumn := by
  obtain ⟨c, hname, hc⟩ := exists_withRole_identity hid
  refine ⟨c, hname, ?_⟩
  rw [bound, hc, regular_eq]
  rfl

theorem map_column_bound (hid : t.columns.countP (·.name = Role.identityName) = 1) :
    t.bound.map (·.column) = t.boundNames := by
  obtain ⟨c, hname, hbound⟩ := bound_eq hid
  rw [hbound, boundNames, List.map_cons, List.map_map, ← hname]
  rfl

/-- The timestamp of the last update, if the table declares it. -/
theorem map_column_stamped :
    t.stamped.toList.map (·.column)
      = if Role.updatedAtName ∈ t.columns.map (·.name) then [Role.updatedAtName] else [] := by
  have hname : ∀ c ∈ t.withRole .updatedAt, c.name = Role.updatedAtName := fun c hc =>
    Role.ofName_eq_updatedAt.mp (of_decide_eq_true (List.mem_filter.mp hc).2)
  have hmem : Role.updatedAtName ∈ t.columns.map (·.name) ↔ t.withRole .updatedAt ≠ [] := by
    rw [List.mem_map, Ne, List.eq_nil_iff_forall_not_mem, not_forall]
    refine exists_congr fun c => ?_
    rw [not_not, withRole, List.mem_filter, decide_eq_true_iff, Column.role,
      Role.ofName_eq_updatedAt]
  rw [stamped]
  cases hcolumns : t.withRole .updatedAt with
  | nil => simp [hmem, hcolumns]
  | cons c cs =>
    rw [if_pos (hmem.mpr (hcolumns ▸ List.cons_ne_nil c cs))]
    have := hname c (hcolumns ▸ List.mem_cons_self)
    simpa [Binding.ofColumn] using this

end Table

/-! ## The insert -/

/-- The argument of an insert for a column: the identity is made, the others are requested. -/
def argumentOf (name : Text) : Text :=
  if name = Role.identityName then name
  else "req.Get".toList ++ Naming.exported name ++ "()".toList

theorem argumentLine_ofColumn {c : Column} (hc : c.name ≠ Role.identityName) :
    (Binding.ofColumn c).argumentLine = "\t\t".toList ++ (argumentOf c.name ++ [',']) := by
  rw [argumentOf, if_neg hc]
  unfold Binding.argumentLine Binding.ofColumn
  simp (disch := exact rfl) only [toList_of_eq_ofList, List.cons_append, List.nil_append,
    List.append_assoc]

theorem Table.entries_arguments (t : Table) : t.fragments.arguments.entries
    = t.boundNames.map fun name => "\t\t".toList ++ (argumentOf name ++ [',']) := by
  have hfirst : "\t\tid,".toList = "\t\t".toList ++ (argumentOf Role.identityName ++ [',']) := by
    rw [argumentOf, if_pos rfl, Role.identityName]
    simp (disch := exact rfl) only [toList_of_eq_ofList, List.cons_append, List.nil_append]
  have hregular : t.fragments.insertArguments
      = t.regularColumns.map fun c => "\t\t".toList ++ (argumentOf c.name ++ [',']) := by
    rw [Table.fragments, regular_eq, List.map_map]
    refine List.map_congr_left fun c hc => argumentLine_ofColumn fun h => ?_
    have hmem := of_decide_eq_true (List.mem_filter.mp hc).2
    exact hmem (h ▸ List.mem_cons_self)
  rw [SlottedLines.entries, Fragments.arguments, hregular, hfirst, boundNames, List.map_cons,
    List.map_map, List.append_nil]
  rfl

/-- In an insert, the columns that are bound meet their placeholders and arguments, and
behind them the timestamp of the last update meets the current time. -/
structure Table.InsertLinesUp (t : Table) : Prop where
  length_eq : t.fragments.insertColumns.length = t.fragments.insertValues.length
  bound : ∀ k name, t.boundNames[k]? = some name →
    t.fragments.insertColumns[k]? = some ("\t\t\t".toList ++ name)
      ∧ t.fragments.insertValues[k]? = some ('$' :: Text.ofNat (k + 1))
      ∧ ∃ argument, t.fragments.arguments.entries[k]? = some argument
        ∧ IsIndented (argumentOf name ++ [',']) argument
  stamped : (t.fragments.insertColumns.drop t.boundNames.length,
      t.fragments.insertValues.drop t.boundNames.length)
    = if Role.updatedAtName ∈ t.columns.map (·.name)
      then (["\t\t\t".toList ++ Role.updatedAtName], ["now()".toList]) else ([], [])
  length_arguments : t.fragments.arguments.entries.length = t.boundNames.length

theorem length_positionalParameters (n : Nat) : (positionalParameters n).length = n := by
  simp [positionalParameters]

theorem Table.insert_lines_up {t : Table}
    (hid : t.columns.countP (·.name = Role.identityName) = 1) : t.InsertLinesUp := by
  have hlength : t.bound.length = t.boundNames.length := by
    rw [← map_column_bound hid, List.length_map]
  have hcolumns : t.fragments.insertColumns
      = t.boundNames.map ("\t\t\t".toList ++ ·)
        ++ (t.stamped.toList.map (·.column)).map ("\t\t\t".toList ++ ·) := by
    rw [← map_column_bound hid, List.map_map, List.map_map]
    rfl
  have hvalues : t.fragments.insertValues = positionalParameters t.boundNames.length
      ++ (t.stamped.toList.map (·.column)).map fun _ => "now()".toList := by
    rw [← hlength, List.map_map]
    rfl
  rw [map_column_stamped] at hcolumns hvalues
  constructor
  · simp only [hcolumns, hvalues, length_positionalParameters, List.length_append,
      List.length_map]
  · intro k name hk
    obtain ⟨hlt, -⟩ := List.getElem?_eq_some_iff.mp hk
    refine ⟨?_, ?_, _, ?_, 2, rfl⟩
    · rw [hcolumns, List.getElem?_append_left (by rwa [List.length_map]), List.getElem?_map, hk]
      rfl
    · rw [hvalues, List.getElem?_append_left (by rwa [length_positionalParameters]),
        positionalParameters, List.getElem?_map, List.getElem?_range hlt]
      rfl
    · rw [entries_arguments, List.getElem?_map, hk]
      rfl
  · rw [hcolumns, hvalues, List.drop_left' (List.length_map _),
      List.drop_left' (length_positionalParameters _)]
    split_ifs <;> rfl
  · rw [entries_arguments, List.length_map]

/-! ## The selects -/

/-- A column in a select: the expression that is selected for it, and the type of the
variable that it is scanned into. -/
structure Selected where
  column : Text
  expression : Text
  wrapper : ScanWrapper

namespace Selected

variable (s : Selected)

/-- The line of a select holds the expression. -/
def IsSelected (line : Text) : Prop := IsIndented s.expression line

/-- The line of a scan holds the column's variable. -/
def IsTarget (line : Text) : Prop := IsIndented ('&' :: Naming.goVariable s.column ++ [',']) line

/-- The line declares the column's variable. -/
def IsDeclared (line : Text) : Prop :=
  ∃ gap, IsIndented
    (Naming.goVariable s.column ++ List.replicate (gap + 1) ' ' ++ s.wrapper.goType) line

/-- The line fills the column's field from its variable. -/
def IsRead (line : Text) : Prop :=
  ∃ gap, IsIndented (Naming.exported s.column ++ ':' :: List.replicate (gap + 1) ' '
    ++ Naming.goVariable s.column ++ '.' :: s.wrapper.accessor ++ [',']) line

/-- A column that is selected as it is. -/
def plain (c : Column) : Selected := ⟨c.name, c.name, c.scalar.scanWrapper⟩

/-- The identity, whatever its type. -/
def identity : Selected := ⟨Role.identityName, Role.identityName, .string⟩

/-- A timestamp, which is selected as a text. -/
def timestamp (name : Text) : Selected :=
  ⟨name, "TO_CHAR(".toList ++ name ++ ", 'YYYY-MM-DD HH24:MI:SS')".toList, .string⟩

end Selected

/-- The columns of a select, in order. -/
def Table.selected (t : Table) : List Selected :=
  Selected.identity :: t.regularColumns.map Selected.plain
    ++ [Selected.timestamp Role.createdAtName, Selected.timestamp Role.updatedAtName]

/-- In a select, the expressions meet the variables that they are scanned into, the
declarations of these and the fields that they fill. -/
structure Table.SelectLinesUp (t : Table) : Prop where
  expressions : t.selected.Forall₂ Selected.IsSelected t.fragments.expressions
  expressionLines : Text.join ['\n'] t.fragments.expressionLines
    = Text.join ",\n".toList t.fragments.expressions
  declarations (n : Nat) : t.selected.Forall₂ Selected.IsDeclared
    (t.fragments.declarations n).entries
  targets (n : Nat) : t.selected.Forall₂ Selected.IsTarget
    (t.fragments.targets n).entries
  responses (n : Nat) : t.selected.Forall₂ Selected.IsRead
    (t.fragments.responses n).entries

namespace Table

variable {t : Table}

/-- Lines that begin with one for the identity, have one for each column, and end with two
for the timestamps. -/
theorem forall₂_selected {R : Selected → Text → Prop} {first created updated : Text}
    {f : Column → Text} (hfirst : R .identity first) (hplain : ∀ c, R (.plain c) (f c))
    (hcreated : R (.timestamp Role.createdAtName) created)
    (hupdated : R (.timestamp Role.updatedAtName) updated) :
    t.selected.Forall₂ R ([first] ++ t.regularColumns.map f ++ [created, updated]) := by
  refine List.rel_append (.cons hfirst ?_) (.cons hcreated (.cons hupdated .nil))
  exact List.forall₂_map_left_iff.mpr (List.forall₂_map_right_iff.mpr
    (List.forall₂_same.mpr fun c _ => hplain c))

theorem map_regular (line : Binding → Text) :
    t.regular.map line = t.regularColumns.map fun c => line (Binding.ofColumn c) := by
  rw [regular_eq, List.map_map]
  rfl

theorem selectColumns_eq (hid : t.columns.countP (·.name = Role.identityName) = 1) :
    t.fragments.selectColumns = ("\t\t\t".toList ++ Role.identityName)
      :: t.regularColumns.map ("\t\t\t".toList ++ ·.name) := by
  obtain ⟨c, hname, hbound⟩ := bound_eq hid
  rw [fragments, hbound, List.map_cons, List.map_map, ← hname]
  rfl

theorem selected_expressions (hid : t.columns.countP (·.name = Role.identityName) = 1) :
    t.selected.Forall₂ Selected.IsSelected t.fragments.expressions := by
  rw [Fragments.expressions, selectColumns_eq hid]
  refine forall₂_selected ⟨3, rfl⟩ (fun c => ⟨3, rfl⟩) ⟨3, ?_⟩ ⟨3, ?_⟩
  · decide
  · decide

theorem join_expressionLines (hid : t.columns.countP (·.name = Role.identityName) = 1) :
    Text.join ['\n'] t.fragments.expressionLines
      = Text.join ",\n".toList t.fragments.expressions := by
  have hne : t.fragments.selectColumns ≠ [] := by
    rw [selectColumns_eq hid]
    exact List.cons_ne_nil _ _
  rw [Fragments.expressionLines, Fragments.expressions,
    Text.join_append hne (List.cons_ne_nil _ _)]
  simp only [Text.join_cons_cons, Text.join_singleton, List.append_assoc]
  exact congrArg (Text.join ",\n".toList t.fragments.selectColumns ++ ·) (by decide)

theorem selected_declarations (n : Nat) :
    t.selected.Forall₂ Selected.IsDeclared (t.fragments.declarations n).entries := by
  have hlines : t.fragments.scanDeclarations = _ := map_regular (·.declarationLine)
  rw [SlottedLines.entries, Fragments.declarations, hlines]
  refine forall₂_selected (R := Selected.IsDeclared) ⟨7, n, congrArg (_ ++ ·) ?_⟩
    (fun c => ⟨0, 2, ?_⟩) ⟨0, n, congrArg (_ ++ ·) ?_⟩ ⟨0, n, congrArg (_ ++ ·) ?_⟩
  · decide
  · unfold Binding.declarationLine Selected.plain
    simp (disch := exact rfl) only [toList_of_eq_ofList, List.append_assoc, List.cons_append,
      List.nil_append]
    rfl
  · decide
  · decide

theorem selected_targets (n : Nat) :
    t.selected.Forall₂ Selected.IsTarget (t.fragments.targets n).entries := by
  have hlines : t.fragments.scanTargets = _ := map_regular (·.targetLine)
  rw [SlottedLines.entries, Fragments.targets, hlines]
  refine forall₂_selected (R := Selected.IsTarget) ⟨n, congrArg (_ ++ ·) ?_⟩ (fun c => ⟨2, ?_⟩)
    ⟨n, congrArg (_ ++ ·) ?_⟩ ⟨n, congrArg (_ ++ ·) ?_⟩
  · decide
  · unfold Binding.targetLine Selected.plain
    simp (disch := exact rfl) only [toList_of_eq_ofList, List.cons_append, List.nil_append]
    rfl
  · decide
  · decide

theorem selected_responses (n : Nat) :
    t.selected.Forall₂ Selected.IsRead (t.fragments.responses n).entries := by
  have hlines : t.fragments.responseFields = _ := map_regular (·.responseLine)
  rw [SlottedLines.entries, Fragments.responses, hlines]
  refine forall₂_selected (R := Selected.IsRead) ⟨7, n, congrArg (_ ++ ·) ?_⟩
    (fun c => ⟨0, 2, ?_⟩) ⟨0, n, congrArg (_ ++ ·) ?_⟩ ⟨0, n, congrArg (_ ++ ·) ?_⟩
  · decide
  · unfold Binding.responseLine Selected.plain
    simp (disch := exact rfl) only [toList_of_eq_ofList, List.append_assoc, List.cons_append,
      List.nil_append]
    rfl
  · decide
  · decide

theorem select_lines_up (hid : t.columns.countP (·.name = Role.identityName) = 1) :
    t.SelectLinesUp where
  expressions := selected_expressions hid
  expressionLines := join_expressionLines hid
  declarations := selected_declarations
  targets := selected_targets
  responses := selected_responses

end Table

/-! ## The creation time -/

/-- Every line of every list is for one of the columns, or for a placeholder or the current
time. -/
structure Fragments.AreAbout (f : Fragments) (columns : List Column) : Prop where
  insertColumns : ∀ l ∈ f.insertColumns, ∃ c ∈ columns, l = (Binding.ofColumn c).columnLine
  insertValues : ∀ l ∈ f.insertValues, l = "now()".toList ∨ ∃ k, l = '$' :: Text.ofNat k
  insertArguments : ∀ l ∈ f.insertArguments, ∃ c ∈ columns, l = (Binding.ofColumn c).argumentLine
  selectColumns : ∀ l ∈ f.selectColumns, ∃ c ∈ columns, l = (Binding.ofColumn c).columnLine
  updateAssignments : ∀ l ∈ f.updateAssignments,
    ∃ c ∈ columns, l = (Binding.ofColumn c).assignmentLine
  updateParameters : ∀ l ∈ f.updateParameters, ∃ c ∈ columns, l = (Binding.ofColumn c).parameterLine
  scanDeclarations : ∀ l ∈ f.scanDeclarations,
    ∃ c ∈ columns, l = (Binding.ofColumn c).declarationLine
  scanTargets : ∀ l ∈ f.scanTargets, ∃ c ∈ columns, l = (Binding.ofColumn c).targetLine
  responseFields : ∀ l ∈ f.responseFields, ∃ c ∈ columns, l = (Binding.ofColumn c).responseLine

namespace Table

variable (t : Table)

/-- The columns but the creation time. -/
def writtenColumns : List Column := t.columns.filter (·.name ≠ Role.createdAtName)

theorem withRole_writtenColumns {r : Role} (hr : r ≠ .createdAt) :
    ({ t with columns := t.writtenColumns } : Table).withRole r = t.withRole r := by
  rw [withRole, withRole, writtenColumns, List.filter_filter]
  refine List.filter_congr fun c _ => ?_
  rw [← Bool.decide_and, decide_eq_decide, and_iff_left_iff_imp]
  rintro rfl
  exact Role.ofName_ne_createdAt.mp hr

/-- The lists are the same without the creation time. -/
theorem fragments_writtenColumns :
    ({ t with columns := t.writtenColumns } : Table).fragments = t.fragments := by
  have hidentity := t.withRole_writtenColumns (r := .identity) nofun
  have hregular := t.withRole_writtenColumns (r := .regular) nofun
  have hupdated := t.withRole_writtenColumns (r := .updatedAt) nofun
  simp only [fragments, bound, stamped, regular, hidentity, hregular, hupdated]

theorem stamped_subset : t.stamped.toList ⊆ (t.withRole .updatedAt).map Binding.ofColumn := by
  intro b hb
  exact List.mem_of_head? (Option.mem_toList.mp hb)

theorem fragments_areAbout : t.fragments.AreAbout t.writtenColumns := by
  have hrole {r : Role} (hr : r ≠ .createdAt) (line : Binding → Text) :
      ∀ l ∈ ((t.withRole r).map Binding.ofColumn).map line,
        ∃ c ∈ t.writtenColumns, l = line (Binding.ofColumn c) := by
    intro l hl
    rw [List.map_map, List.mem_map] at hl
    obtain ⟨c, hc, rfl⟩ := hl
    rw [← withRole_writtenColumns t hr] at hc
    exact ⟨c, List.mem_of_mem_filter hc, rfl⟩
  have hregular (line : Binding → Text) := hrole (r := .regular) nofun line
  have hbound (line : Binding → Text) :
      ∀ l ∈ t.bound.map line, ∃ c ∈ t.writtenColumns, l = line (Binding.ofColumn c) := by
    intro l hl
    rw [bound, List.map_append, List.mem_append] at hl
    exact hl.elim (hrole (r := .identity) nofun line l) (hregular line l)
  constructor
  case insertColumns =>
    intro l hl
    refine (List.mem_append.mp hl).elim (hbound _ l) fun hl => ?_
    have hsub := List.map_subset Binding.columnLine (t.stamped_subset)
    exact hrole (r := .updatedAt) nofun _ l (hsub hl)
  case insertValues =>
    intro l hl
    refine (List.mem_append.mp hl).symm.imp (fun hl => ?_) fun hl => ?_
    · obtain ⟨_, -, rfl⟩ := List.mem_map.mp hl
      rfl
    · obtain ⟨k, -, rfl⟩ := List.mem_map.mp hl
      exact ⟨k + 1, rfl⟩
  case selectColumns => exact hbound _
  all_goals exact hregular _

end Table

/-! ## The rendered text -/

theorem repository_lines_up [Template.Engine] {t : Table} (c : Config) (w : Workspace)
    (hid : t.columns.countP (·.name = Role.identityName) = 1) :
    (∃ a₁ a₂ a₃ a₄ a₅, TemplateSource.builtin.renderIn w ArtifactKind.repository.fileTemplate
        (ArtifactKind.repository.slots t c)
      = .ok (Text.join ['\n'] (a₁ ++ Repository.insertLines t.name t.fragments
          ++ a₂ ++ Repository.selectLines t.name t.fragments
            (c.protoPackage ++ '.' :: Naming.exported t.name)
          ++ a₃ ++ Repository.listLines t.name t.fragments
          ++ a₄ ++ Repository.rowLines t.fragments (Naming.plural (Naming.exported t.name))
            (c.protoPackage ++ '.' :: Naming.exported t.name)
          ++ a₅)))
      ∧ t.InsertLinesUp ∧ t.SelectLinesUp
      ∧ t.fragments.AreAbout t.writtenColumns
      ∧ ({ t with columns := t.writtenColumns } : Table).fragments = t.fragments :=
  ⟨renderIn_repository_statements t c w, Table.insert_lines_up hid, Table.select_lines_up hid,
    Table.fragments_areAbout t, Table.fragments_writtenColumns t⟩

namespace Sample

/-- A table with its identity behind two other columns. -/
def client : Table where
  name := "client".toList
  columns := [⟨Role.createdAtName, "timestamp".toList, []⟩, ⟨"first_name".toList, "text".toList, []⟩,
    ⟨Role.identityName, "uuid".toList, [.primaryKey]⟩, ⟨"balance".toList, "numeric".toList, []⟩,
    ⟨Role.updatedAtName, "timestamp".toList, []⟩]

end Sample

theorem repository_lines_up_client :
    Sample.client.columns.countP (·.name = Role.identityName) = 1
      ∧ Sample.client.fragments.insertColumns[2]? = some "\t\t\tbalance".toList
      ∧ Sample.client.fragments.insertValues[2]? = some "$3".toList
      ∧ (∃ line, Sample.client.fragments.arguments.entries[2]? = some line
        ∧ IsIndented "req.GetBalance(),".toList line)
      ∧ Sample.client.SelectLinesUp := by
  have hid : Sample.client.columns.countP (·.name = Role.identityName) = 1 := by decide +kernel
  have hargument : argumentOf "balance".toList ++ [','] = "req.GetBalance(),".toList := by
    decide +kernel
  obtain ⟨-, hinsert, hselect, -, -⟩ := repository_lines_up {} {} hid
  obtain ⟨hcolumn, hvalue, hline⟩ := hinsert.bound 2 "balance".toList (by decide +kernel)
  exact ⟨hid, hcolumn, hvalue, hargument ▸ hline, hselect⟩

end TableScaffold
