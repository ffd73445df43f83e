import TableScaffold.Proofs.Generation.BuiltinArtifacts
import TableScaffold.Proofs.Sql.Statement
import TableScaffold.Standalone

set_option autoImplicit false

/-!
# Two schemas in one

The tables of two schemas with a semicolon between them are those of the first one and those
of the second one (`Schema.read_append`), and no table has a part in the files and snippets
of another one.  So with built-in templates a run on both schemas makes the files of a run on
the first one and of a run on the second one, and combined files that hold the texts of both
(`Config.artifacts_append`).  The texts are meant as they are written, before a formatter has
seen them.
-/

namespace TableScaffold

open Procedure Workspace

/-! ## Schemas -/

namespace Schema

theorem ofStatements_append {statements statements' : List Text}
    (h : (ofStatements statements).failure = none) :
    ofStatements (statements ++ statements')
      = ⟨(ofStatements statements).tables ++ (ofStatements statements').tables,
        (ofStatements statements').failure⟩ := by
  induction statements with
  | nil => rfl
  | cons s rest ih =>
    rw [List.cons_append]
    cases hvoid : isVoid (Text.dropBlankRows s) with
    | true =>
      rw [ofStatements_of_isVoid hvoid] at h ⊢
      rw [ofStatements_of_isVoid hvoid, ih h]
    | false =>
      cases hparse : Table.parse (Text.dropBlankRows s) with
      | error e =>
        rw [ofStatements_of_error hvoid hparse] at h
        cases h
      | ok t =>
        rw [ofStatements_of_ok hvoid hparse] at h ⊢
        rw [ofStatements_of_ok hvoid hparse, ih h]
        rfl

theorem read_eq_of_failure {sql : Text} (h : (read sql).failure = none) :
    ∃ pieces, Sql.statements sql = .ok pieces ∧ read sql = ofStatements pieces := by
  cases hsql : Sql.statements sql with
  | error e =>
    rw [read, hsql] at h
    cases h
  | ok pieces => exact ⟨pieces, rfl, read_of_statements hsql⟩

/-- Two schemas without faults make up one that has the tables of both. -/
theorem read_append {s r : Text} (hs : (read s).failure = none) (hr : (read r).failure = none)
    (hcomment : ¬ Sql.EndsInLineComment s) (hoperator : ¬ Sql.EndsInOpenOperator s) :
    read (s ++ ';' :: r) = ⟨(read s).tables ++ (read r).tables, none⟩ := by
  obtain ⟨pieces, hpieces, heq⟩ := read_eq_of_failure hs
  obtain ⟨pieces', hpieces', heq'⟩ := read_eq_of_failure hr
  rw [heq] at hs ⊢
  rw [heq'] at hr ⊢
  rw [read_of_statements (Sql.statements_append hpieces hcomment hoperator hpieces'),
    ofStatements_append hs, hr]

end Schema

/-! ## Artifacts -/

namespace Artifacts

/-- The artifacts of two schemas, where the combined texts of the second one stand behind those
of the first one. -/
def append (a b : Artifacts) : Artifacts where
  tables := a.tables ++ b.tables
  files := a.files ++ b.files
  combined k := a.combined k ++ b.combined k

instance : Append Artifacts := ⟨append⟩

@[simp] theorem tables_append (a b : Artifacts) : (a ++ b).tables = a.tables ++ b.tables := rfl

end Artifacts

namespace Config

section Running

variable [Template.Engine] {c : Config} {w w' : Workspace} {ts ts' : List Table} {a b : Artifacts}

theorem Generates.append {os os' : List Output} (h : c.Generates w ts os)
    (h' : c.Generates w ts' os') : c.Generates w (ts ++ ts') (os ++ os') where
  clear := List.forall_mem_append.mpr ⟨h.clear, h'.clear⟩
  files := by
    obtain ⟨files, hfiles, rfl⟩ := h.files
    obtain ⟨files', hfiles', rfl⟩ := h'.files
    exact ⟨files ++ files', mapM_append_eq_ok hfiles hfiles', List.flatten_append.symm⟩
  snippets := List.forall_mem_append.mpr ⟨h.snippets, h'.snippets⟩

theorem combinedOutput_append {k : ArtifactKind} {text text' : Text}
    (h : c.combinedOutput w ts k = .ok (c.output (c.combinedPath k) text))
    (h' : c.combinedOutput w ts' k = .ok (c.output (c.combinedPath k) text')) :
    c.combinedOutput w (ts ++ ts') k = .ok (c.output (c.combinedPath k) (text ++ text')) := by
  obtain ⟨snippets, hsnippets, heq⟩ := combinedOutput_eq_ok.mp h
  obtain ⟨snippets', hsnippets', heq'⟩ := combinedOutput_eq_ok.mp h'
  have htext : text = snippets.flatMap (· ++ ['\n']) := congrArg Output.text heq
  have htext' : text' = snippets'.flatMap (· ++ ['\n']) := congrArg Output.text heq'
  apply combinedOutput_eq_ok.mpr
  exact ⟨_, mapM_append_eq_ok hsnippets hsnippets', by rw [List.flatMap_append, htext, htext']⟩

/-- Tables have no part in the artifacts of one another. -/
theorem Produces.append (h : c.Produces w ts a) (h' : c.Produces w ts' b) :
    c.Produces w (ts ++ ts') (a ++ b) where
  tables := by rw [Artifacts.tables_append, h.tables, h'.tables, List.map_append]
  generates := h.generates.append h'.generates
  combined k hk := combinedOutput_append (h.combined k hk) (h'.combined k hk)

/-! ## Runs -/

variable [GoFormatter]

/-- A run on two schemas with a semicolon between them.  The first one is to end neither in a
line comment nor in an operator that takes the semicolon, and a run on each of them is to
succeed, anywhere.  With built-in templates the run on both yields the artifacts of both, or
it fails with a file of these that cannot be written, behind those before it. -/
theorem artifacts_append {s r : Text} {w₁ w₁' w₂ w₂' : Workspace} {report₁ report₂ : Report}
    (hbuiltin : c.templateDir = none) (hcomment : ¬ Sql.EndsInLineComment s)
    (hoperator : ¬ Sql.EndsInOpenOperator s)
    (h₁ : exec (c.run s : Procedure Workspace Report) w₁ = (.ok report₁, w₁'))
    (h₂ : exec (c.run r : Procedure Workspace Report) w₂ = (.ok report₂, w₂')) :
    ∃ a b, c.Yields s w₁ report₁ w₁' a ∧ c.Yields r w₂ report₂ w₂' b
      ∧ ∀ w, (∃ report w', c.Yields (s ++ ';' :: r) w report w' (a ++ b))
        ∨ ∃ before o behind w' p fault, c.performed (c.outputs (a ++ b)) = before ++ o :: behind
          ∧ WroteAll before w w' ∧ WriteFails w' o (.write p fault)
          ∧ exec (c.run (s ++ ';' :: r) : Procedure Workspace Report) w
            = (.error (.write p fault), w'.makeAbove o.path) := by
  obtain ⟨hs, a, ha⟩ := exists_produces_of_run h₁
  obtain ⟨hr, b, hb⟩ := exists_produces_of_run h₂
  refine ⟨a, b, yields_of_run h₁ ha, yields_of_run h₂ hb, ?_⟩
  intro w
  have hread := Schema.read_append hs hr hcomment hoperator
  have hselected : c.selected (Schema.read (s ++ ';' :: r))
      = c.selected (Schema.read s) ++ c.selected (Schema.read r) := by
    rw [hread]
    exact List.filter_append _ _
  have hboth : c.Produces w (c.selected (Schema.read (s ++ ';' :: r))) (a ++ b) := by
    rw [hselected]
    exact (ha.of_builtin hbuiltin w).append (hb.of_builtin hbuiltin w)
  have hattempt := delivers_run hbuiltin (by rw [hread]) hboth.generates
    hboth.mapM_combinedOutput w
  generalize hending : exec (c.run (s ++ ';' :: r) : Procedure Workspace Report) w = ending
    at hattempt
  cases hattempt with
  | complete _ => exact .inl ⟨_, _, yields_of_run hending hboth⟩
  | cut hos hwrote hfails =>
    obtain ⟨p, fault, rfl⟩ := hfails.eq_write
    exact .inr ⟨_, _, _, _, p, fault, hos, hwrote, hfails, rfl⟩

end Running

end Config

/-! ## Two tables -/

namespace Sample

/-- Messages in the default directory. -/
def protos : Config := Config.only {} .proto

/-- No files at all. -/
def listing : Config := { enabled := .const false }

def firstTable : Text := "CREATE TABLE IF NOT EXISTS a ()".toList

def secondTable : Text := "CREATE TABLE IF NOT EXISTS b ()".toList

/-- What a run leaves of a workspace in which there was nothing. -/
def leaves (c : Config) (sql : Text) : Workspace :=
  (exec (c.run sql : Procedure Workspace Report) {}).2

theorem exec_eq_leaves {c : Config} {sql : Text} {report : Report}
    (h : (exec (c.run sql : Procedure Workspace Report) {}).1 = .ok report) :
    exec (c.run sql : Procedure Workspace Report) {} = (.ok report, leaves c sql) := by
  rw [← h]
  rfl

def messagesOf (tables : List Text) : Report where
  tables := tables
  files := protos.tablePaths tables ++ ["./generates/protos/storehouse_service.proto".toList]

/-- The table of a schema with one table and no columns. -/
def bareTable : Table := ⟨"a".toList, []⟩

theorem read_firstTable : Schema.read firstTable = ⟨[bareTable], none⟩ := by
  decide +kernel

theorem read_secondTable : Schema.read secondTable = ⟨[⟨"b".toList, []⟩], none⟩ := by
  decide +kernel

/-- The first text goes on neither in a comment nor in an operator. -/
theorem ends_firstTable :
    ¬ Sql.EndsInLineComment firstTable ∧ ¬ Sql.EndsInOpenOperator firstTable := by
  decide +kernel

theorem read_glued : Schema.read (firstTable ++ ';' :: secondTable)
    = ⟨[bareTable, ⟨"b".toList, []⟩], none⟩ := by
  have hfirst : (Schema.read firstTable).failure = none := by rw [read_firstTable]
  have hsecond : (Schema.read secondTable).failure = none := by rw [read_secondTable]
  rw [Schema.read_append hfirst hsecond ends_firstTable.1 ends_firstTable.2, read_firstTable,
    read_secondTable]
  rfl

/-- The files of the messages of both tables. -/
def messageFiles : Workspace where
  entries :=
    [(["generates".toList], .directory), (["generates".toList, "protos".toList], .directory)]
    ++ ["a.proto", "b.proto", "storehouse_service.proto"].map fun name =>
      (["generates", "protos", name].map String.toList, .file ByteArray.empty)

/-- A run on some tables succeeds in an empty workspace if there are no more files to write. -/
theorem run_protos {sql : Text} {ts : List Table} {report : Report}
    (hread : Schema.read sql = ⟨ts, none⟩)
    (hclear : ∀ t ∈ protos.selected ⟨ts, none⟩, protos.collidingKind? t.name = none)
    (hreport : protos.report (protos.selected ⟨ts, none⟩) = report)
    (hfiles : ∀ p ∈ report.files, messageFiles.Holds p) :
    exec (protos.run sql : Procedure Workspace Report) {} = (.ok report, leaves protos sql) := by
  have hbeneath : Beneath {} messageFiles := .of_empty rfl rfl rfl
  rw [← hread] at hclear hreport
  rw [← hreport] at hfiles
  have hfailure : (Schema.read sql).failure = none := by rw [hread]
  obtain ⟨w, hrun⟩ := Config.exists_run_of_beneath rfl hfailure hclear hbeneath fun _ => hfiles
  apply exec_eq_leaves
  rw [hrun, hreport]

theorem run_firstTable : exec (protos.run firstTable : Procedure Workspace Report) {}
    = (.ok (messagesOf ["a".toList]), leaves protos firstTable) :=
  run_protos read_firstTable (by decide) (by decide) (by decide)

theorem run_secondTable : exec (protos.run secondTable : Procedure Workspace Report) {}
    = (.ok (messagesOf ["b".toList]), leaves protos secondTable) :=
  run_protos read_secondTable (by decide) (by decide) (by decide)

theorem run_glued : exec (protos.run (firstTable ++ ';' :: secondTable)
    : Procedure Workspace Report) {}
    = (.ok (messagesOf ["a".toList, "b".toList]),
      leaves protos (firstTable ++ ';' :: secondTable)) :=
  run_protos read_glued (by decide) (by decide) (by decide)

end Sample

namespace Config

theorem artifacts_append_messages : ∃ a b report w',
    Sample.protos.Yields Sample.firstTable {} (Sample.messagesOf ["a".toList])
      (Sample.leaves Sample.protos Sample.firstTable) a
    ∧ Sample.protos.Yields Sample.secondTable {} (Sample.messagesOf ["b".toList])
      (Sample.leaves Sample.protos Sample.secondTable) b
    ∧ Sample.protos.Yields (Sample.firstTable ++ ';' :: Sample.secondTable) {} report w' (a ++ b) := by
  obtain ⟨a, b, ha, hb, hboth⟩ := artifacts_append (c := Sample.protos) rfl
    Sample.ends_firstTable.1 Sample.ends_firstTable.2 Sample.run_firstTable Sample.run_secondTable
  rcases hboth {} with ⟨report, w', h⟩ | ⟨before, o, behind, w', p, fault, -, -, -, hfails⟩
  · exact ⟨a, b, report, w', ha, hb, h⟩
  · cases hfails.symm.trans Sample.run_glued

/-- An operator at the end of the first schema may take the semicolon. -/
theorem not_tables_append :
    ¬ ∀ (c : Config) (s r : Text) (report₁ report₂ report : Report) (w w₁ w₂ w' : Workspace),
      c.templateDir = none → ¬ Sql.EndsInLineComment s
        → exec (c.run s : Procedure Workspace Report) w = (.ok report₁, w₁)
        → exec (c.run r : Procedure Workspace Report) w = (.ok report₂, w₂)
        → exec (c.run (s ++ ';' :: r) : Procedure Workspace Report) w = (.ok report, w')
        → report.tables = report₁.tables ++ report₂.tables := by
  intro h
  have hfirst : exec (Sample.listing.run (Sample.firstTable ++ ['?']) : Procedure Workspace Report)
      {} = (.ok ⟨["a".toList], []⟩, {}) := by
    decide +kernel
  have hsecond : exec (Sample.listing.run Sample.secondTable : Procedure Workspace Report) {}
      = (.ok ⟨["b".toList], []⟩, {}) := by
    decide +kernel
  have hboth : exec (Sample.listing.run (Sample.firstTable ++ ['?'] ++ ';' :: Sample.secondTable)
      : Procedure Workspace Report) {} = (.ok ⟨["a".toList], []⟩, {}) := by
    decide +kernel
  have htables := h _ _ _ _ _ _ _ _ _ _ rfl (by decide +kernel) hfirst hsecond hboth
  exact absurd htables (by decide)

end Config

end TableScaffold
