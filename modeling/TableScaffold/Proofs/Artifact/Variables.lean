import Mathlib.Data.List.Nodup
import TableScaffold.Proofs.Artifact.Alignment
import TableScaffold.Proofs.Naming.SnakeCase

set_option autoImplicit false

/-!
# The variables of a repository

The method that selects one row declares its receiver, parameters and results, a span and a
query, and then a variable for each column of the select.  For columns with different names
in snake case the variables are different, none is a reserved word, and a column shares its
name with a declaration in front of them exactly if it is called `c`, `ctx`, `req`, `resp`,
`err`, `db_span` or `query` (`Table.scanVariables_declare`).
-/

namespace TableScaffold

open Template Piece

/-! ## Declarations -/

/-- A line of code that declares something. -/
inductive Declaration where
  /-- a method, which declares its receiver, its parameters and its results -/
  | method (receiver : Text × Text) (name : Text) (parameters results : List (Text × Text))
  /-- variables that are given a value -/
  | assigned (goNames : List Text) (value : Text)
  /-- a variable of a type, in a list of such variables -/
  | typed (goName : Text) (gap : Nat) (goType : Text)

namespace Declaration

/-- A parameter: its name and its type. -/
def parameter (p : Text × Text) : Text := p.1 ++ ' ' :: p.2

/-- The line of a declaration. -/
def line : Declaration → Text
  | method receiver name parameters results =>
    "func (".toList ++ parameter receiver ++ ") ".toList ++ name ++ ['(']
      ++ Text.join ", ".toList (parameters.map parameter) ++ ") (".toList
      ++ Text.join ", ".toList (results.map parameter) ++ ") \x7b".toList
  | assigned goNames value => '\t' :: Text.join ", ".toList goNames ++ " := ".toList ++ value
  | typed goName gap goType => "\t\t".toList ++ goName ++ List.replicate (gap + 1) ' ' ++ goType

theorem line_method (receiver : Text × Text) (name : Text) (parameters results : List (Text × Text)) :
    (method receiver name parameters results).line
      = "func (".toList ++ parameter receiver ++ ") ".toList ++ name ++ ['(']
        ++ Text.join ", ".toList (parameters.map parameter) ++ ") (".toList
        ++ Text.join ", ".toList (results.map parameter) ++ ") \x7b".toList := rfl

theorem line_assigned (goNames : List Text) (value : Text) :
    (assigned goNames value).line
      = '\t' :: Text.join ", ".toList goNames ++ " := ".toList ++ value := rfl

/-- The names that a declaration brings into the scope of the method. -/
def goNames : Declaration → List Text
  | method receiver _ parameters results =>
    receiver.1 :: parameters.map (·.1) ++ results.map (·.1)
  | assigned goNames _ => goNames
  | typed goName _ _ => [goName]

end Declaration

/-- The variable of a selected column, `gap` blanks further from its type than need be. -/
def Selected.declaration (s : Selected) (gap : Nat) : Declaration :=
  .typed (Naming.goVariable s.column) gap s.wrapper.goType

namespace Table

variable (t : Table) (c : Config)

/-- The head of the method that selects one row. -/
def selectMethod : Declaration :=
  let entity := Naming.exported t.name
  .method ("c".toList, '*' :: entity ++ "Repo".toList) "GetByPKey".toList
    [("ctx".toList, "context.Context".toList),
      ("req".toList, '*' :: c.protoPackage ++ '.' :: entity ++ "PrimaryKey".toList)]
    [("resp".toList, '*' :: c.protoPackage ++ '.' :: entity), ("err".toList, "error".toList)]

/-- The span of the method. -/
def selectSpan : Declaration :=
  .assigned ["dbSpan".toList, "ctx".toList]
    "opentracing.StartSpanFromContext(ctx, \"storage.GetByPKey\")".toList

/-- The query of the method. -/
def selectQuery : Declaration := .assigned ["query".toList] ['\x60']

/-- The names that the method declares in front of the variables of the columns. -/
def openingNames : List Text := [t.selectMethod c, selectSpan, selectQuery].flatMap (·.goNames)

/-- The variables of the regular columns. -/
def scanVariables : List Declaration :=
  t.regularColumns.map fun column => (Selected.plain column).declaration 0

/-- The variables that the method scans a row into. -/
def rowVariables : List Declaration :=
  Selected.identity.declaration 7 :: t.scanVariables
    ++ [(Selected.timestamp Role.createdAtName).declaration 0,
      (Selected.timestamp Role.updatedAtName).declaration 0]

/-- The lines of the method that selects one row. -/
def selectMethodLines : List Text :=
  [(t.selectMethod c).line, [], selectSpan.line, "\tdefer dbSpan.Finish()".toList, [],
    selectQuery.line]
  ++ Repository.selectLines t.name t.fragments (c.protoPackage ++ '.' :: Naming.exported t.name)
  ++ [[], "\treturn".toList, "\x7d".toList]

/-! ## The method in the text -/

theorem filledLines_append (lines lines' : List (List Piece)) :
    filledLines t c (lines ++ lines') = filledLines t c lines ++ filledLines t c lines' :=
  List.map_append

open Builtin.Repository in
theorem filledLines_getByKey :
    filledLines t c (getByKey.take 41) = t.selectMethodLines c := by
  obtain ⟨-, hselect, -, -⟩ := filledLines_statements t c
  have hopening : filledLines t c (getByKey.take 6)
      = [(t.selectMethod c).line, [], selectSpan.line, "\tdefer dbSpan.Finish()".toList, [],
        selectQuery.line] := by
    simp only [filledLines, getByKey, Piece.line, List.take_succ_cons, List.take_zero,
      List.map_cons, List.map_nil, List.flatMap_cons, List.flatMap_nil, value, List.append_nil,
      selectMethod, selectSpan, selectQuery, Declaration.line_method, Declaration.line_assigned,
      Declaration.parameter,
      Text.join_cons_cons, Text.join_singleton, List.append_assoc, List.cons_append,
      List.nil_append]
    simp (disch := exact rfl) only [toList_of_eq_ofList, List.cons_append, List.nil_append]
    rfl
  have hclosing : filledLines t c ((getByKey.drop 38).take 3)
      = [[], "\treturn".toList, "\x7d".toList] := by
    simp only [filledLines, getByKey, Piece.line, List.drop_succ_cons, List.drop_zero,
      List.take_succ_cons, List.take_zero, List.map_cons, List.map_nil, List.flatMap_cons,
      List.flatMap_nil, value, List.append_nil]
  rw [show 41 = 6 + 32 + 3 from rfl, List.take_add, List.take_add, filledLines_append,
    filledLines_append, hopening, hselect, hclosing]
  rfl

open Builtin.Repository in
/-- The text of a repository holds the method that selects one row. -/
theorem renderIn_selectMethod [Template.Engine] (w : Workspace) :
    ∃ before behind, TemplateSource.builtin.renderIn w ArtifactKind.repository.fileTemplate
        (ArtifactKind.repository.slots t c)
      = .ok (Text.join ['\n'] (before ++ t.selectMethodLines c ++ behind)) := by
  refine ⟨filledLines t c (header ++ create),
    filledLines t c (getByKey.drop 41 ++ listQuery ++ listRows ++ update ++ updatePatch ++ delete),
    ?_⟩
  rw [renderIn_fileTemplate, ← filledLines_getByKey]
  simp only [filledLines, ← List.map_append]
  rfl

theorem scanDeclarations_eq : t.fragments.scanDeclarations = t.scanVariables.map (·.line) := by
  rw [scanVariables, List.map_map]
  exact map_regular (·.declarationLine)

/-- The declarations of the variables are lines of the method. -/
theorem entries_declarations : (t.fragments.declarations 2).entries
    = t.rowVariables.map (·.line) := by
  rw [SlottedLines.entries, Fragments.declarations, scanDeclarations_eq, rowVariables,
    List.map_append, List.map_cons, List.singleton_append]
  rfl

/-! ## Names of variables -/

theorem openingNames_eq : t.openingNames c
    = ["c", "ctx", "req", "resp", "err", "dbSpan", "ctx", "query"].map String.toList := rfl

/-- The columns that share their names with what the method declares in front of them. -/
theorem map_columnOf_openingNames : (t.openingNames c).map Naming.columnOf
    = ["c", "ctx", "req", "resp", "err", "db_span", "ctx", "query"].map String.toList := by
  rw [openingNames_eq]
  decide

theorem flatMap_goNames_scanVariables : t.scanVariables.flatMap (·.goNames)
    = (t.regularColumns.map (·.name)).map Naming.goVariable := by
  rw [scanVariables, List.flatMap_map, List.map_map]
  exact List.map_eq_flatMap.symm

theorem map_column_selected : t.selected.map (·.column)
    = Role.identityName :: t.regularColumns.map (·.name)
      ++ [Role.createdAtName, Role.updatedAtName] := by
  rw [selected, List.map_append, List.map_cons, List.map_map]
  rfl

theorem flatMap_goNames_rowVariables :
    t.rowVariables.flatMap (·.goNames) = (t.selected.map (·.column)).map Naming.goVariable := by
  rw [rowVariables, List.cons_append, List.flatMap_cons, List.flatMap_append,
    flatMap_goNames_scanVariables, map_column_selected, List.cons_append, List.map_cons,
    List.map_append]
  rfl

section

variable {t}
variable (hsnake : ∀ column ∈ t.columns, Naming.IsSnakeCase column.name)

include hsnake in
theorem isSnakeCase_regular : ∀ name ∈ t.regularColumns.map (·.name), Naming.IsSnakeCase name := by
  intro name hname
  obtain ⟨column, hcolumn, rfl⟩ := List.mem_map.mp hname
  exact hsnake column (List.mem_of_mem_filter hcolumn)

include hsnake in
theorem isSnakeCase_selected : ∀ name ∈ t.selected.map (·.column), Naming.IsSnakeCase name := by
  have hconventional : ∀ name ∈ Role.conventionalNames, Naming.IsSnakeCase name := by
    decide
  intro name hname
  rw [map_column_selected, List.cons_append, List.mem_cons, List.mem_append] at hname
  rcases hname with rfl | hregular | htimestamp
  · exact hconventional _ List.mem_cons_self
  · exact isSnakeCase_regular hsnake name hregular
  · exact hconventional name (List.mem_cons_of_mem _ htimestamp)

/-- A select selects no column twice. -/
theorem nodup_selected (hdistinct : (t.columns.map (·.name)).Nodup) :
    (t.selected.map (·.column)).Nodup := by
  have hregular : (t.regularColumns.map (·.name)).Nodup :=
    hdistinct.sublist (List.filter_sublist.map _)
  have hapart : ∀ name ∈ t.regularColumns.map (·.name), name ∉ Role.conventionalNames := by
    intro name hname
    obtain ⟨column, hcolumn, rfl⟩ := List.mem_map.mp hname
    exact of_decide_eq_true (List.mem_filter.mp hcolumn).2
  have hperm : (t.selected.map (·.column)).Perm
      (t.regularColumns.map (·.name) ++ Role.conventionalNames) := by
    rw [map_column_selected, List.cons_append]
    exact List.perm_middle.symm
  rw [hperm.nodup_iff, List.nodup_append]
  refine ⟨hregular, by decide, fun name hname other hother heq => ?_⟩
  exact hapart name hname (heq ▸ hother)

include hsnake in
/-- Different columns have different variables. -/
theorem nodup_rowVariables (hdistinct : (t.columns.map (·.name)).Nodup) :
    (t.rowVariables.flatMap (·.goNames)).Nodup := by
  rw [flatMap_goNames_rowVariables]
  refine List.Nodup.map_on (fun name hname other hother heq => ?_) (nodup_selected hdistinct)
  exact Naming.goVariable_inj (isSnakeCase_selected hsnake name hname)
    (isSnakeCase_selected hsnake other hother) heq

theorem not_keyword_rowVariables :
    ∀ goName ∈ t.rowVariables.flatMap (·.goNames), Naming.isGoKeyword goName = false := by
  rw [flatMap_goNames_rowVariables]
  intro goName hmem
  obtain ⟨name, -, rfl⟩ := List.mem_map.mp hmem
  exact Naming.isGoKeyword_goVariable name

include hsnake in
/-- What the method declares in front of the variables is declared again exactly for the
columns of that name. -/
theorem mem_scanVariables_iff : ∀ goName ∈ t.openingNames c,
    goName ∈ t.scanVariables.flatMap (·.goNames)
      ↔ Naming.columnOf goName ∈ t.columns.map (·.name) := by
  have hopening : ∀ goName ∈ t.openingNames c,
      Naming.goVariable (Naming.columnOf goName) = goName
        ∧ Naming.columnOf goName ∉ Role.conventionalNames := by
    rw [openingNames_eq]
    decide
  intro goName hgoName
  obtain ⟨hback, hregular⟩ := hopening goName hgoName
  rw [flatMap_goNames_scanVariables, List.mem_map]
  constructor
  · rintro ⟨name, hname, heq⟩
    rw [Naming.goVariable_eq_iff (isSnakeCase_regular hsnake name hname) hback] at heq
    exact heq ▸ List.map_subset _ (List.filter_sublist.subset) hname
  · intro hmem
    obtain ⟨column, hcolumn, heq⟩ := List.mem_map.mp hmem
    refine ⟨Naming.columnOf goName, List.mem_map.mpr ⟨column, ?_, heq⟩, hback⟩
    exact List.mem_filter.mpr ⟨hcolumn, decide_eq_true (heq ▸ hregular)⟩

end

end Table

/-! ## The declarations of the method -/

theorem Table.scanVariables_declare [Template.Engine] {t : Table} (c : Config) (w : Workspace)
    (hsnake : ∀ column ∈ t.columns, Naming.IsSnakeCase column.name)
    (hdistinct : (t.columns.map (·.name)).Nodup) :
    (∃ before behind, TemplateSource.builtin.renderIn w ArtifactKind.repository.fileTemplate
        (ArtifactKind.repository.slots t c)
      = .ok (Text.join ['\n'] (before ++ t.selectMethodLines c ++ behind)))
      ∧ t.fragments.scanDeclarations = t.scanVariables.map (·.line)
      ∧ (t.fragments.declarations 2).entries = t.rowVariables.map (·.line)
      ∧ (t.rowVariables.flatMap (·.goNames)).Nodup
      ∧ (∀ goName ∈ t.rowVariables.flatMap (·.goNames), Naming.isGoKeyword goName = false)
      ∧ (∀ goName ∈ t.openingNames c, goName ∈ t.scanVariables.flatMap (·.goNames)
        ↔ Naming.columnOf goName ∈ t.columns.map (·.name))
      ∧ (t.openingNames c).map Naming.columnOf
        = ["c", "ctx", "req", "resp", "err", "db_span", "ctx", "query"].map String.toList :=
  ⟨t.renderIn_selectMethod c w, t.scanDeclarations_eq, t.entries_declarations,
    nodup_rowVariables hsnake hdistinct, not_keyword_rowVariables,
    mem_scanVariables_iff c hsnake, t.map_columnOf_openingNames c⟩

namespace Sample

/-- A table with a column that is called like a variable of the method. -/
def search : Table where
  name := "search".toList
  columns := [⟨Role.identityName, "uuid".toList, []⟩, ⟨"type".toList, "text".toList, []⟩,
    ⟨"query".toList, "text".toList, []⟩]

end Sample

theorem Table.scanVariables_declare_search :
    (∀ column ∈ Sample.search.columns, Naming.IsSnakeCase column.name)
      ∧ (Sample.search.columns.map (·.name)).Nodup
      ∧ Sample.search.fragments.scanDeclarations
        = ["\t\ttype_ sql.NullString".toList, "\t\tquery sql.NullString".toList]
      ∧ (Sample.search.rowVariables.flatMap (·.goNames)).Nodup
      ∧ "err".toList ∉ Sample.search.scanVariables.flatMap (·.goNames) := by
  have hsnake : ∀ column ∈ Sample.search.columns, Naming.IsSnakeCase column.name := by
    decide
  have hdistinct : (Sample.search.columns.map (·.name)).Nodup := by decide
  obtain ⟨-, hlines, -, hnodup, -, hmem, -⟩ := Table.scanVariables_declare {} {} hsnake hdistinct
  refine ⟨hsnake, hdistinct, ?_, hnodup, ?_⟩
  · rw [hlines]
    decide
  · rw [hmem "err".toList (by decide)]
    decide

/-- The query of the method and the variable of a column share a name. -/
theorem Table.not_disjoint_scanVariables :
    ¬ ∀ (t : Table) (c : Config), (∀ column ∈ t.columns, Naming.IsSnakeCase column.name) →
      (t.columns.map (·.name)).Nodup →
      (t.openingNames c).Disjoint (t.scanVariables.flatMap (·.goNames)) := by
  intro h
  have hdisjoint := h Sample.search {} (by decide) (by decide)
  have hopening : "query".toList ∈ Sample.search.openingNames {} := by decide
  have hscan : "query".toList ∈ Sample.search.scanVariables.flatMap (·.goNames) := by
    decide
  exact hdisjoint hopening hscan

end TableScaffold
