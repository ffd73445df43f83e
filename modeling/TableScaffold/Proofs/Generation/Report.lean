import TableScaffold.Generation.Run
import TableScaffold.Proofs.Files.Execution

set_option autoImplicit false

/-!
# The report of a run

A run reports each file once it is written and each table once its files are.  Which
files and tables these are can be told from the tables of the schema alone
(`Config.report`), so a run does what it would do without reporting, and then gives
that report (`Config.run_eq_emit`).
-/

namespace TableScaffold

namespace Report

/-- The report with more files at its end. -/
def addFiles (r : Report) (ps : List Path) : Report := { r with files := r.files ++ ps }

theorem addFiles_nil (r : Report) : r.addFiles [] = r := by
  unfold addFiles
  rw [List.append_nil]

theorem addFiles_addFile (r : Report) (p : Path) (ps : List Path) :
    (r.addFile p).addFiles ps = r.addFiles (p :: ps) := by
  unfold addFiles addFile
  rw [List.append_assoc, List.singleton_append]

end Report

namespace Config

/-- What a run over the given tables reports. -/
def report (c : Config) (tables : List Table) : Report where
  tables := tables.map (·.name)
  files := (tables.flatMap fun t => c.enabledKinds.map fun k => c.artifactPath k t.name)
    ++ c.enabledKinds.map c.combinedPath

/-- A report with the files and the names of more tables. -/
def reportedAfter (c : Config) (r : Report) (ts : List Table) : Report where
  tables := r.tables ++ ts.map (·.name)
  files := r.files ++ ts.flatMap fun t => c.enabledKinds.map fun k => c.artifactPath k t.name

theorem reportedAfter_nil (c : Config) (r : Report) : c.reportedAfter r [] = r := by
  unfold reportedAfter
  rw [List.map_nil, List.flatMap_nil, List.append_nil, List.append_nil]

theorem reportedAfter_cons (c : Config) (r : Report) (t : Table) (ts : List Table) :
    c.reportedAfter
        ((r.addFiles (c.enabledKinds.map fun k => c.artifactPath k t.name)).addTable t.name) ts
      = c.reportedAfter r (t :: ts) := by
  unfold reportedAfter Report.addTable Report.addFiles
  rw [List.map_cons, List.flatMap_cons, List.append_assoc, List.append_assoc, List.singleton_append]

theorem kinds_empty (c : Config) :
    (c.enabledKinds.map Combined.empty).map (·.kind) = c.enabledKinds := by
  rw [List.map_map]
  exact List.map_id _

/-! ## Running without a report -/

section Emitting

variable {m : Type → Type} [Monad m] [FileAccess m] [FormatAccess m]

/-- Writes the combined files. -/
def emitCombined (c : Config) (combined : List Combined) : ExceptT ScaffoldError m Unit :=
  combined.forM fun b => c.writeFile (c.combinedPath b.kind) b.contents

variable [Template.Engine]

/-- Writes the file of a table and keeps its snippet. -/
def emitKind (c : Config) (t : Table) (combined : Combined) :
    ExceptT ScaffoldError m Combined := do
  let slots := combined.kind.slots t c
  let text ← c.templateSource.render combined.kind.fileTemplate slots
  c.writeFile (c.artifactPath combined.kind t.name) text
  let snippet ← c.templateSource.render combined.kind.snippetTemplate slots
  return combined.push snippet

/-- Generates the files of a table, in the order of the kinds. -/
def emitTable (c : Config) (combined : List Combined) (t : Table) :
    ExceptT ScaffoldError m (List Combined) := do
  c.checkCollision t.name
  combined.mapM (c.emitKind t)

/-- Generates the artifacts of a schema, and tells from its tables what has been
generated. -/
def emit (c : Config) (sql : Text) : ExceptT ScaffoldError m Report := do
  let schema := Schema.read sql
  let tables := c.selected schema
  let combined ← tables.foldlM c.emitTable (c.enabledKinds.map Combined.empty)
  if let some e := schema.failure then throw (.schema e)
  c.emitCombined combined
  return c.report tables

/-! ## Steps with a report and without one -/

section Lawful

variable [LawfulMonad m] (c : Config)

omit [Template.Engine] in
theorem run_reportFile (p : Path) (text : Text) (r : Report) :
    (c.reportFile p text).run r
      = (do c.writeFile p text; return ((), r.addFile p) : ExceptT ScaffoldError m _) := by
  unfold reportFile
  simp [StateT.run_bind]

omit [Template.Engine] in
/-- The combined files are reported in the order of their kinds. -/
theorem run_writeCombined (bs : List Combined) (r : Report) :
    (c.writeCombined bs).run r
      = (do
        c.emitCombined bs
        return ((), r.addFiles (bs.map fun b => c.combinedPath b.kind))
          : ExceptT ScaffoldError m _) := by
  induction bs generalizing r with
  | nil => simp [writeCombined, emitCombined, Report.addFiles_nil]
  | cons b bs ih =>
    change (c.reportFile (c.combinedPath b.kind) b.contents >>= fun _ => c.writeCombined bs).run r
      = c.writeFile (c.combinedPath b.kind) b.contents >>= (fun _ => c.emitCombined bs)
        >>= fun _ => _
    simp [run_reportFile, ih, Report.addFiles_addFile]

/-- The file of a table is reported before its snippet is kept. -/
theorem run_generateKind (t : Table) (b : Combined) (r : Report) :
    (c.generateKind t b).run r
      = (do
        let b' ← c.emitKind t b
        return (b', r.addFile (c.artifactPath b.kind t.name)) : ExceptT ScaffoldError m _) := by
  unfold generateKind emitKind
  simp [run_reportFile]

/-- For one table, every kind reports its file. -/
theorem run_generateKinds (t : Table) (bs : List Combined) (r : Report) :
    (bs.mapM (c.generateKind t)).run r
      = (do
        let bs' ← bs.mapM (c.emitKind t)
        return (bs', r.addFiles (bs.map fun b => c.artifactPath b.kind t.name))
          : ExceptT ScaffoldError m _) := by
  induction bs generalizing r with
  | nil => simp [Report.addFiles_nil]
  | cons b bs ih =>
    simp [run_generateKind, ih, Report.addFiles_addFile]

/-- A table is reported once its files are. -/
theorem run_generateTable (bs : List Combined) (t : Table) (r : Report) :
    (c.generateTable bs t).run r
      = (do
        let bs' ← c.emitTable bs t
        return (bs', (r.addFiles (bs.map fun b => c.artifactPath b.kind t.name)).addTable t.name)
          : ExceptT ScaffoldError m _) := by
  unfold generateTable emitTable
  simp [run_generateKinds]

end Lawful

end Emitting

/-! ## Runs -/

section Runs

open Procedure

variable {σ : Type} [FileAccess (StateM σ)] [FormatAccess (StateM σ)] [Template.Engine]
variable (c : Config)

theorem kind_of_emitKind {t : Table} {b b' : Combined} {s s' : σ}
    (h : exec (c.emitKind t b : Procedure σ Combined) s = (.ok b', s')) : b'.kind = b.kind := by
  unfold emitKind at h
  simp only [exec_bind_eq_ok] at h
  obtain ⟨_, _, _, _, _, _, _, _, _, hpush⟩ := h
  cases hpush
  rfl

theorem kinds_of_emitKinds {t : Table} {bs bs' : List Combined} {s s' : σ}
    (h : exec (bs.mapM (c.emitKind t) : Procedure σ (List Combined)) s = (.ok bs', s')) :
    bs'.map (·.kind) = bs.map (·.kind) := by
  induction bs generalizing s bs' with
  | nil =>
    cases h
    rfl
  | cons b bs ih =>
    simp only [List.mapM_cons, exec_bind_eq_ok] at h
    obtain ⟨b', _, hb, bs'', _, hrest, hcons⟩ := h
    cases hcons
    rw [List.map_cons, List.map_cons, kind_of_emitKind c hb, ih hrest]

theorem kinds_of_emitTable {t : Table} {bs bs' : List Combined} {s s' : σ}
    (h : exec (c.emitTable bs t : Procedure σ (List Combined)) s = (.ok bs', s')) :
    bs'.map (·.kind) = bs.map (·.kind) := by
  unfold emitTable at h
  obtain ⟨_, _, _, hkinds⟩ := exec_bind_eq_ok.mp h
  exact kinds_of_emitKinds c hkinds

/-- Table by table, the files of the enabled kinds and then the table are reported. -/
theorem exec_generateTables {ts : List Table} {bs : List Combined} {r : Report} {s : σ}
    (hkinds : bs.map (·.kind) = c.enabledKinds) :
    exec ((ts.foldlM c.generateTable bs).run r : Procedure σ _) s
      = exec (do
        let bs' ← ts.foldlM c.emitTable bs
        return (bs', c.reportedAfter r ts)) s := by
  induction ts generalizing bs r s with
  | nil =>
    rw [reportedAfter_nil]
    rfl
  | cons t ts ih =>
    rw [List.foldlM_cons, List.foldlM_cons, StateT.run_bind, run_generateTable, bind_assoc,
      bind_assoc, exec_bind, exec_bind]
    rcases htable : exec (c.emitTable bs t : Procedure σ _) s with ⟨_ | bs', s'⟩
    · rfl
    · have hfiles : (bs.map fun b => c.artifactPath b.kind t.name)
          = c.enabledKinds.map fun k => c.artifactPath k t.name := by
        rw [← hkinds, List.map_map]
        rfl
      dsimp only
      rw [pure_bind, ih ((kinds_of_emitTable c htable).trans hkinds), hfiles, reportedAfter_cons]

theorem kinds_of_emitTables {ts : List Table} {bs bs' : List Combined} {s s' : σ}
    (h : exec (ts.foldlM c.emitTable bs : Procedure σ (List Combined)) s = (.ok bs', s')) :
    bs'.map (·.kind) = bs.map (·.kind) := by
  induction ts generalizing bs s with
  | nil =>
    cases h
    rfl
  | cons t ts ih =>
    rw [List.foldlM_cons, exec_bind_eq_ok] at h
    obtain ⟨bs₁, s₁, ht, hrest⟩ := h
    rw [ih hrest, kinds_of_emitTable c ht]

/-- What is done with the combined files once the tables are generated. -/
theorem exec_generateSchema {schema : Schema} {s : σ} :
    exec ((c.generateSchema schema).run {} : Procedure σ _) s
      = exec (do
        let bs ← (c.selected schema).foldlM c.emitTable (c.enabledKinds.map Combined.empty)
        if let some e := schema.failure then throw (.schema e)
        c.emitCombined bs
        return ((), c.report (c.selected schema))) s := by
  unfold generateSchema
  rw [StateT.run_bind, exec_bind, exec_bind, exec_generateTables c (kinds_empty c), exec_bind]
  rcases htables : exec ((c.selected schema).foldlM c.emitTable
    (c.enabledKinds.map Combined.empty) : Procedure σ _) s with ⟨_ | bs, s'⟩
  · rfl
  · have hfiles : (bs.map fun b => c.combinedPath b.kind) = c.enabledKinds.map c.combinedPath := by
      rw [← (kinds_of_emitTables c htables).trans (kinds_empty c), List.map_map]
      rfl
    dsimp only [exec_pure]
    cases schema.failure with
    | some e => rfl
    | none =>
      change exec ((c.writeCombined bs).run _ : Procedure σ _) s' = exec (c.emitCombined bs >>= _) s'
      rw [run_writeCombined, hfiles]
      rfl

/-- What a run reports can be told from the tables that it generates. -/
theorem run_eq_emit (sql : Text) : (c.run sql : Procedure σ Report) = c.emit sql := by
  apply ExceptT.ext
  funext s
  change exec (c.run sql : Procedure σ Report) s = exec (c.emit sql) s
  unfold run emit
  rw [exec_bind, exec_generateSchema, exec_bind, exec_bind]
  rcases exec ((c.selected (Schema.read sql)).foldlM c.emitTable
    (c.enabledKinds.map Combined.empty) : Procedure σ _) s with ⟨_ | bs, s'⟩
  · rfl
  · cases (Schema.read sql).failure with
    | some e => rfl
    | none =>
      dsimp only
      rw [exec_bind, exec_bind]
      rcases exec (c.emitCombined bs : Procedure σ _) s' with ⟨_ | _, s''⟩ <;> rfl

end Runs

end Config

end TableScaffold
