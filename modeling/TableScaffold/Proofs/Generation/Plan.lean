import TableScaffold.Proofs.Generation.Rendering
import TableScaffold.Proofs.Generation.Report
import TableScaffold.Proofs.Generation.WriteFile
import TableScaffold.Proofs.Result

set_option autoImplicit false

/-!
# The plan of a run

What a run writes can be told before it starts, from the schema, the configuration
and the workspace that it starts in (`Config.plan`).
-/

namespace TableScaffold

open Procedure

/-- What a run is to generate. -/
structure Plan where
  tables : List Table
  outputs : List Output
  deriving DecidableEq, Repr

namespace Config

/-- The tables of the statements that are not blank, as far as the filter takes them. -/
def plannedTables (c : Config) (sql : Text) : Except SchemaError (List Table) := do
  let pieces ← (Sql.statements sql).mapError .unreadable
  let tables ← ((pieces.map Text.dropBlankRows).filter (!Schema.isVoid ·)).mapM Table.parse
  return tables.filter fun t => c.filter.takes t.name

variable [Template.Engine]

/-- The file of a table, rendered in a workspace. -/
def tableOutput (c : Config) (w : Workspace) (t : Table) (k : ArtifactKind) :
    Except ScaffoldError Output := do
  return c.output (c.artifactPath k t.name)
    (← c.templateSource.renderIn w k.fileTemplate (k.slots t c))

/-- The snippet of a table, rendered in a workspace. -/
def snippet (c : Config) (w : Workspace) (k : ArtifactKind) (t : Table) :
    Except ScaffoldError Text :=
  c.templateSource.renderIn w k.snippetTemplate (k.slots t c)

/-- The combined file of some tables, rendered in a workspace. -/
def combinedOutput (c : Config) (w : Workspace) (tables : List Table) (k : ArtifactKind) :
    Except ScaffoldError Output := do
  return c.output (c.combinedPath k) ((← tables.mapM (c.snippet w k)).flatMap (· ++ ['\n']))

/-- The plan of a run: table by table the files of the enabled kinds, and the combined
files of the enabled kinds after them. -/
def plan (c : Config) (w : Workspace) (sql : Text) : Except ScaffoldError Plan := do
  let tables ← (c.plannedTables sql).mapError .schema
  let files ← tables.mapM fun t => c.enabledKinds.mapM (c.tableOutput w t)
  let combined ← c.enabledKinds.mapM (c.combinedOutput w tables)
  return ⟨tables, files.flatten ++ combined⟩

end Config

/-! ## Reading the schema -/

namespace Schema

variable {s : Text} {rest : List Text}

theorem ofStatements_of_isVoid (h : isVoid (Text.dropBlankRows s) = true) :
    ofStatements (s :: rest) = ofStatements rest := by
  rw [ofStatements, if_pos h]

theorem ofStatements_of_ok (h : isVoid (Text.dropBlankRows s) = false) {t : Table}
    (ht : Table.parse (Text.dropBlankRows s) = .ok t) :
    ofStatements (s :: rest) = (ofStatements rest).cons t := by
  rw [ofStatements, if_neg (Bool.eq_false_iff.mp h), ht]

theorem ofStatements_of_error (h : isVoid (Text.dropBlankRows s) = false) {e : SchemaError}
    (he : Table.parse (Text.dropBlankRows s) = .error e) :
    ofStatements (s :: rest) = ⟨[], some e⟩ := by
  rw [ofStatements, if_neg (Bool.eq_false_iff.mp h), he]

theorem read_of_statements {sql : Text} {statements : List Text}
    (h : Sql.statements sql = .ok statements) : read sql = ofStatements statements := by
  rw [read, h]

/-- A schema without a fault holds the tables of its statements. -/
theorem mapM_parse_eq_ok {statements : List Text} (h : (ofStatements statements).failure = none) :
    ((statements.map Text.dropBlankRows).filter (!isVoid ·)).mapM Table.parse
      = .ok (ofStatements statements).tables := by
  induction statements with
  | nil => rfl
  | cons s rest ih =>
    rw [List.map_cons]
    cases hvoid : isVoid (Text.dropBlankRows s) with
    | true =>
      rw [ofStatements_of_isVoid hvoid] at h ⊢
      rw [List.filter_cons_of_neg (by simp [hvoid])]
      exact ih h
    | false =>
      rw [List.filter_cons_of_pos (by simp [hvoid]), List.mapM_cons]
      cases hparse : Table.parse (Text.dropBlankRows s) with
      | error e =>
        rw [ofStatements_of_error hvoid hparse] at h
        cases h
      | ok t =>
        rw [ofStatements_of_ok hvoid hparse] at h ⊢
        rw [ih h]
        rfl

end Schema

theorem Config.plannedTables_eq_ok {c : Config} {sql : Text}
    (h : (Schema.read sql).failure = none) :
    c.plannedTables sql = .ok (c.selected (Schema.read sql)) := by
  unfold plannedTables selected
  unfold Schema.read at h ⊢
  simp only [bind_eq_ok, mapError_eq_ok]
  cases hsql : Sql.statements sql with
  | error e =>
    rw [hsql] at h
    cases h
  | ok statements =>
    rw [hsql] at h
    exact ⟨statements, rfl, _, Schema.mapM_parse_eq_ok h, rfl⟩

/-! ## What a plan holds -/

namespace Config

variable [Template.Engine] {c : Config} {w : Workspace}

theorem tableOutput_eq_ok {t : Table} {k : ArtifactKind} {o : Output} :
    c.tableOutput w t k = .ok o
      ↔ ∃ text, c.templateSource.renderIn w k.fileTemplate (k.slots t c) = .ok text
        ∧ o = c.output (c.artifactPath k t.name) text := by
  unfold tableOutput
  rw [bind_eq_ok]
  constructor
  · rintro ⟨text, htext, h⟩
    exact ⟨text, htext, (Except.ok.inj h).symm⟩
  · rintro ⟨text, htext, rfl⟩
    exact ⟨text, htext, rfl⟩

theorem combinedOutput_eq_ok {ts : List Table} {k : ArtifactKind} {o : Output} :
    c.combinedOutput w ts k = .ok o
      ↔ ∃ snippets, ts.mapM (c.snippet w k) = .ok snippets
        ∧ o = c.output (c.combinedPath k) (snippets.flatMap (· ++ ['\n'])) := by
  unfold combinedOutput
  rw [bind_eq_ok]
  constructor
  · rintro ⟨snippets, hsnippets, h⟩
    exact ⟨snippets, hsnippets, (Except.ok.inj h).symm⟩
  · rintro ⟨snippets, hsnippets, rfl⟩
    exact ⟨snippets, hsnippets, rfl⟩

theorem path_of_tableOutput {t : Table} {k : ArtifactKind} {o : Output}
    (h : c.tableOutput w t k = .ok o) : o.path = c.artifactPath k t.name := by
  obtain ⟨_, -, rfl⟩ := tableOutput_eq_ok.mp h
  rfl

theorem path_of_combinedOutput {ts : List Table} {k : ArtifactKind} {o : Output}
    (h : c.combinedOutput w ts k = .ok o) : o.path = c.combinedPath k := by
  obtain ⟨_, -, rfl⟩ := combinedOutput_eq_ok.mp h
  rfl

theorem plan_eq_ok {sql : Text} {plan : Plan} : c.plan w sql = .ok plan
    ↔ ∃ files combined, c.plannedTables sql = .ok plan.tables
      ∧ plan.tables.mapM (fun t => c.enabledKinds.mapM (c.tableOutput w t)) = .ok files
      ∧ c.enabledKinds.mapM (c.combinedOutput w plan.tables) = .ok combined
      ∧ plan.outputs = files.flatten ++ combined := by
  unfold Config.plan
  simp only [bind_eq_ok, mapError_eq_ok]
  constructor
  · rintro ⟨ts, hts, files, hfiles, combined, hcombined, h⟩
    cases h
    exact ⟨files, combined, hts, hfiles, hcombined, rfl⟩
  · rintro ⟨files, combined, hts, hfiles, hcombined, hout⟩
    exact ⟨plan.tables, hts, files, hfiles, combined, hcombined, by rw [← hout]; rfl⟩

/-- The files of tables have the paths that are reported for the tables. -/
theorem paths_tableOutput {ts : List Table} {files : List (List Output)}
    (h : ts.mapM (fun t => c.enabledKinds.mapM (c.tableOutput w t)) = .ok files) :
    files.flatten.map (·.path)
      = ts.flatMap fun t => c.enabledKinds.map fun k => c.artifactPath k t.name := by
  have htable (t : Table) (os : List Output)
      (h : c.enabledKinds.mapM (c.tableOutput w t) = .ok os) :
      os.map (·.path) = c.enabledKinds.map fun k => c.artifactPath k t.name :=
    map_of_mapM_eq_ok (fun _ _ ho => path_of_tableOutput ho) h
  rw [List.map_flatten, map_of_mapM_eq_ok htable h, List.flatMap]

/-- What a plan says is formatted where the configuration asks for it. -/
theorem formatted_of_plan {sql : Text} {plan : Plan} (h : c.plan w sql = .ok plan) :
    ∀ o ∈ plan.outputs, o.formatted = c.formats o.path := by
  obtain ⟨files, combined, -, hfiles, hcombined, hout⟩ := plan_eq_ok.mp h
  have htable (t : Table) (os : List Output)
      (h : c.enabledKinds.mapM (c.tableOutput w t) = .ok os) :
      ∀ o ∈ os, o.formatted = c.formats o.path := by
    refine forall_of_mapM_eq_ok (fun k o ho => ?_) h
    obtain ⟨_, -, rfl⟩ := tableOutput_eq_ok.mp ho
    rfl
  rw [hout]
  refine List.forall_mem_append.mpr ⟨fun o ho => ?_, ?_⟩
  · obtain ⟨os, hos, ho⟩ := List.mem_flatten.mp ho
    exact forall_of_mapM_eq_ok htable hfiles os hos o ho
  · refine forall_of_mapM_eq_ok (fun k o ho => ?_) hcombined
    obtain ⟨_, -, rfl⟩ := combinedOutput_eq_ok.mp ho
    rfl

/-- Where nothing is formatted, the files of a plan hold its texts. -/
theorem bytes_of_plan [GoFormatter] {sql : Text} {plan : Plan} (h : c.plan w sql = .ok plan)
    (hnone : c.formatGo = false) :
    ∀ o ∈ plan.outputs, o.bytes = FileAccess.bytesOfText o.text := by
  intro o ho
  apply Output.bytes_of_not_formatted
  rw [formatted_of_plan h o ho, formats, hnone, Bool.false_and]

/-- The paths of a plan are those that are reported. -/
theorem paths_plan {sql : Text} {plan : Plan} (h : c.plan w sql = .ok plan) :
    plan.outputs.map (·.path) = (c.report plan.tables).files := by
  obtain ⟨files, combined, -, hfiles, hcombined, hout⟩ := plan_eq_ok.mp h
  have hcombinedPaths :=
    map_of_mapM_eq_ok (fun _ _ ho => path_of_combinedOutput ho) hcombined
  rw [hout, List.map_append, paths_tableOutput hfiles, hcombinedPaths, report]

end Config

end TableScaffold
