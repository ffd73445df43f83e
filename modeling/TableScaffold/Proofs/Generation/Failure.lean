import TableScaffold.Proofs.Generation.Refinement

set_option autoImplicit false

/-!
# What a failed run leaves behind

A run may stop at five kinds of steps: the schema cannot be split, a statement cannot
be parsed, a table is refused, a file or snippet of a table fails (`KindFails`), or a
combined file cannot be written (`Stops`).  Everything before that step has been done
(`Reaches`, `ReachesKind`), and nothing behind it: the files that were written are
those of the steps before, and nothing else has changed but new directories
(`prefix_of_failed_run`).
-/

namespace TableScaffold

open Procedure Workspace

/-- A journal in which nothing has happened but that directories are new. -/
structure Journal.OnlyDirectories (j j' : Journal) : Prop where
  writes : j'.writes = j.writes
  workspace : Extends (fun _ => False) j.workspace j'.workspace

namespace Journal.OnlyDirectories

theorem refl (j : Journal) : OnlyDirectories j j := ⟨rfl, .refl j.workspace⟩

theorem makeAbove (j : Journal) (p : Path) :
    OnlyDirectories j { j with workspace := j.workspace.makeAbove p } :=
  ⟨rfl, makeAbove_extends j.workspace p⟩

end Journal.OnlyDirectories

/-! ## Steps before a failure -/

namespace Config

/-- The tables of some statements, as far as the filter takes them. -/
def tablesOf (c : Config) (statements : List Text) : Except SchemaError (List Table) := do
  let tables ← ((statements.map Text.dropBlankRows).filter (!Schema.isVoid ·)).mapM Table.parse
  return tables.filter fun t => c.filter.takes t.name

/-- A statement defines a table that the filter takes. -/
structure Defines (c : Config) (statement : Text) (t : Table) : Prop where
  notVoid : Schema.isVoid (Text.dropBlankRows statement) = false
  parse : Table.parse (Text.dropBlankRows statement) = .ok t
  takes : c.filter.takes t.name = true

/-- What has been generated of some tables: none of them is refused, and their files and
snippets have been rendered. -/
structure Generates [Template.Engine] (c : Config) (w : Workspace) (ts : List Table)
    (os : List Output) : Prop where
  clear : ∀ t ∈ ts, c.collidingKind? t.name = none
  files : ∃ files, ts.mapM (fun t => c.enabledKinds.mapM (c.tableOutput w t)) = .ok files
    ∧ os = files.flatten
  snippets : ∀ t ∈ ts, ∀ k ∈ c.enabledKinds, ∃ s, c.snippet w k t = .ok s

/-- What has been generated of one table, for some of the kinds. -/
structure GeneratesKinds [Template.Engine] (c : Config) (w : Workspace) (t : Table)
    (ks : List ArtifactKind) (os : List Output) : Prop where
  clear : c.collidingKind? t.name = none
  files : ks.mapM (c.tableOutput w t) = .ok os
  snippets : ∀ k ∈ ks, ∃ s, c.snippet w k t = .ok s

/-- A run gets to a statement, with the files of all tables before it. -/
def Reaches [Template.Engine] (c : Config) (w : Workspace) (sql statement : Text)
    (os : List Output) : Prop :=
  ∃ before behind ts, Sql.statements sql = .ok (before ++ statement :: behind)
    ∧ c.tablesOf before = .ok ts ∧ c.Generates w ts os

/-- A run gets to a kind of a table, with the files of all tables before it, and those
of its own for the kinds before. -/
def ReachesKind [Template.Engine] (c : Config) (w : Workspace) (sql : Text) (t : Table)
    (k : ArtifactKind) (os : List Output) : Prop :=
  ∃ statement before behind os₁ os₂, c.Reaches w sql statement os₁ ∧ c.Defines statement t
    ∧ c.enabledKinds = before ++ k :: behind ∧ c.GeneratesKinds w t before os₂
    ∧ os = os₁ ++ os₂

/-! ## Failures -/

/-- How a table fails for a kind in a workspace `w₁` of a run that started in `w`: with
the files that were written for that kind, and the error. -/
inductive KindFails [Template.Engine] (c : Config) (w w₁ : Workspace) (t : Table)
    (k : ArtifactKind) : List Output → ScaffoldError → Prop where
  /-- the file cannot be rendered -/
  | file {e : ScaffoldError} : c.tableOutput w₁ t k = .error e → KindFails c w w₁ t k [] e
  /-- the file cannot be written -/
  | write {o : Output} {e : ScaffoldError} : c.tableOutput w t k = .ok o → c.dryRun = false →
    WriteFails w₁ o e → KindFails c w w₁ t k [] e
  /-- the file is there, and the snippet cannot be rendered -/
  | snippet {o : Output} {e : ScaffoldError} : c.tableOutput w t k = .ok o →
    c.snippet w₁ k t = .error e → KindFails c w w₁ t k [o] e

/-- How a run that started in `w` stops in a workspace `w₁`: with the files that were
generated before the failing step, and the error of that step. -/
inductive Stops [Template.Engine] (c : Config) (w w₁ : Workspace) (sql : Text) :
    List Output → ScaffoldError → Prop where
  /-- the schema cannot be split -/
  | split {e : Sql.LexError} : Sql.statements sql = .error e →
    Stops c w w₁ sql [] (.schema (.unreadable e))
  /-- a statement cannot be parsed -/
  | statement {s : Text} {os : List Output} {e : SchemaError} : c.Reaches w sql s os →
    Schema.isVoid (Text.dropBlankRows s) = false →
    Table.parse (Text.dropBlankRows s) = .error e → Stops c w w₁ sql os (.schema e)
  /-- a table is refused -/
  | collision {s : Text} {t : Table} {k : ArtifactKind} {os : List Output} :
    c.Reaches w sql s os → c.Defines s t → c.collidingKind? t.name = some k →
    Stops c w w₁ sql os (.validation (.collision t.name k (c.artifactPath k t.name)))
  /-- a table fails for a kind -/
  | kind {t : Table} {k : ArtifactKind} {os os' : List Output} {e : ScaffoldError} :
    c.ReachesKind w sql t k os → c.KindFails w w₁ t k os' e → Stops c w w₁ sql (os ++ os') e
  /-- all tables are done, and a combined file cannot be written -/
  | combined {statements : List Text} {ts : List Table} {before behind : List ArtifactKind}
    {k : ArtifactKind} {os os' : List Output} {o : Output} {e : ScaffoldError} :
    Sql.statements sql = .ok statements → c.tablesOf statements = .ok ts →
    c.Generates w ts os → c.enabledKinds = before ++ k :: behind →
    before.mapM (c.combinedOutput w ts) = .ok os' → c.combinedOutput w ts k = .ok o →
    c.dryRun = false → WriteFails w₁ o e → Stops c w w₁ sql (os ++ os') e

/-! ## Statements before a failure -/

section Statements

variable {c : Config} {s : Text} {statements : List Text} {t : Table} {ts : List Table}

theorem tablesOf_eq_ok : c.tablesOf statements = .ok ts
    ↔ ∃ all, ((statements.map Text.dropBlankRows).filter (!Schema.isVoid ·)).mapM Table.parse = .ok all
      ∧ ts = all.filter fun t => c.filter.takes t.name := by
  unfold tablesOf
  rw [bind_eq_ok]
  exact exists_congr fun all => and_congr_right fun _ => (Except.ok.injEq _ _).to_iff.trans eq_comm

theorem tablesOf_cons_of_isVoid (h : Schema.isVoid (Text.dropBlankRows s) = true) :
    c.tablesOf (s :: statements) = c.tablesOf statements := by
  unfold tablesOf
  rw [List.map_cons, List.filter_cons_of_neg (by simp [h])]

theorem tablesOf_cons_of_parse (h : Schema.isVoid (Text.dropBlankRows s) = false)
    (hparse : Table.parse (Text.dropBlankRows s) = .ok t) (hts : c.tablesOf statements = .ok ts) :
    c.tablesOf (s :: statements) = .ok ([t].filter (fun t => c.filter.takes t.name) ++ ts) := by
  obtain ⟨all, hall, rfl⟩ := tablesOf_eq_ok.mp hts
  refine tablesOf_eq_ok.mpr ⟨t :: all, ?_, (List.filter_append [t] all).symm⟩
  rw [List.map_cons, List.filter_cons_of_pos (by simp [h])]
  exact mapM_cons_eq_ok.mpr ⟨t, all, hparse, hall, rfl⟩

/-- A table that is taken is defined by a statement, and those before it are the tables
of the statements before. -/
theorem exists_defines {later : List Table}
    (h : c.selected (Schema.ofStatements statements) = ts ++ t :: later) :
    ∃ before s behind, statements = before ++ s :: behind ∧ c.tablesOf before = .ok ts
      ∧ c.Defines s t := by
  unfold selected at h
  induction statements generalizing ts with
  | nil => cases ts <;> cases h
  | cons s rest ih =>
    cases hvoid : Schema.isVoid (Text.dropBlankRows s) with
    | true =>
      rw [Schema.ofStatements_of_isVoid hvoid] at h
      obtain ⟨before, s', behind, rfl, hbefore, hs'⟩ := ih h
      exact ⟨s :: before, s', behind, rfl, (tablesOf_cons_of_isVoid hvoid).trans hbefore, hs'⟩
    | false =>
      cases hparse : Table.parse (Text.dropBlankRows s) with
      | error e =>
        rw [Schema.ofStatements_of_error hvoid hparse] at h
        cases ts <;> cases h
      | ok u =>
        rw [Schema.ofStatements_of_ok hvoid hparse] at h
        change (u :: (Schema.ofStatements rest).tables).filter _ = _ at h
        cases htakes : c.filter.takes u.name with
        | false =>
          rw [List.filter_cons_of_neg (by simp [htakes])] at h
          obtain ⟨before, s', behind, rfl, hbefore, hs'⟩ := ih h
          refine ⟨s :: before, s', behind, rfl, ?_, hs'⟩
          have hcons := tablesOf_cons_of_parse hvoid hparse hbefore
          rwa [List.filter_cons_of_neg (by simp [htakes])] at hcons
        | true =>
          rw [List.filter_cons_of_pos (by simp [htakes])] at h
          cases ts with
          | nil =>
            obtain ⟨rfl, -⟩ := List.cons.inj h
            exact ⟨[], s, rest, rfl, rfl, hvoid, hparse, htakes⟩
          | cons t' ts =>
            obtain ⟨rfl, hrest⟩ := List.cons.inj h
            obtain ⟨before, s', behind, rfl, hbefore, hs'⟩ := ih hrest
            refine ⟨s :: before, s', behind, rfl, ?_, hs'⟩
            have hcons := tablesOf_cons_of_parse hvoid hparse hbefore
            rwa [List.filter_cons_of_pos (by simp [htakes])] at hcons

/-- The first statement that defines no table stands behind those whose tables are read. -/
theorem exists_of_failure {e : SchemaError}
    (h : (Schema.ofStatements statements).failure = some e) :
    ∃ before s behind, statements = before ++ s :: behind
      ∧ c.tablesOf before = .ok (c.selected (Schema.ofStatements statements))
      ∧ Schema.isVoid (Text.dropBlankRows s) = false
      ∧ Table.parse (Text.dropBlankRows s) = .error e := by
  unfold selected
  induction statements with
  | nil => cases h
  | cons s rest ih =>
    cases hvoid : Schema.isVoid (Text.dropBlankRows s) with
    | true =>
      rw [Schema.ofStatements_of_isVoid hvoid] at h ⊢
      obtain ⟨before, s', behind, rfl, hbefore, hs'⟩ := ih h
      exact ⟨s :: before, s', behind, rfl, (tablesOf_cons_of_isVoid hvoid).trans hbefore, hs'⟩
    | false =>
      cases hparse : Table.parse (Text.dropBlankRows s) with
      | error e' =>
        rw [Schema.ofStatements_of_error hvoid hparse] at h ⊢
        obtain rfl := Option.some.inj h
        exact ⟨[], s, rest, rfl, rfl, hvoid, hparse⟩
      | ok t =>
        rw [Schema.ofStatements_of_ok hvoid hparse] at h ⊢
        obtain ⟨before, s', behind, hrest, hbefore, hs'⟩ := ih h
        refine ⟨s :: before, s', behind, by rw [hrest, List.cons_append], ?_, hs'⟩
        rw [tablesOf_cons_of_parse hvoid hparse hbefore, ← List.filter_append]
        rfl

end Statements

/-! ## From a failure to its step -/

section Steps

variable [Template.Engine] [GoFormatter]
variable {c : Config} {w₀ : Workspace} {t : Table} {j j' : Journal} {e : ScaffoldError}

omit [GoFormatter] in
theorem tableOutput_eq_error {w : Workspace} {k : ArtifactKind} : c.tableOutput w t k = .error e
    ↔ c.templateSource.renderIn w k.fileTemplate (k.slots t c) = .error e :=
  map_eq_error

omit [Template.Engine] [GoFormatter] in
theorem exec_checkCollision_eq_error {table : Text}
    (h : exec (c.checkCollision table : Procedure Journal Unit) j = (.error e, j')) :
    j' = j ∧ ∃ k, c.collidingKind? table = some k
      ∧ e = .validation (.collision table k (c.artifactPath k table)) := by
  unfold checkCollision at h
  cases hkind : c.collidingKind? table with
  | none =>
    rw [hkind] at h
    cases h
  | some k =>
    rw [hkind] at h
    cases h
    exact ⟨rfl, k, rfl, rfl⟩

/-- A step that fails has rendered, written and collected no more than `KindFails` says. -/
theorem emitKind_error {b : Combined} (hj : c.Since w₀ j.workspace)
    (h : exec (c.emitKind t b : Procedure Journal Combined) j = (.error e, j')) :
    ∃ os j₁, Journal.Logged (c.performed os) j j₁ ∧ Journal.OnlyDirectories j₁ j'
      ∧ c.KindFails w₀ j₁.workspace t b.kind os e := by
  unfold emitKind at h
  rcases exec_bind_eq_error.mp h with hrender | ⟨text, j₁, hrender, h⟩
  · rw [(TemplateSource.exec_render _ _ _ _).1] at hrender
    obtain ⟨hfile, rfl⟩ := Prod.mk.inj hrender
    exact ⟨[], j, logged_performed_nil c j, .refl j, .file (tableOutput_eq_error.mpr hfile)⟩
  rw [(TemplateSource.exec_render _ _ _ _).1] at hrender
  obtain ⟨hfile, rfl⟩ := Prod.mk.inj hrender
  obtain ⟨hfile₀, -⟩ := hj.renderIn b.kind.isTemplateName_fileTemplate hfile
  have ho : c.tableOutput w₀ t b.kind = .ok (c.output (c.artifactPath b.kind t.name) text) :=
    tableOutput_eq_ok.mpr ⟨text, hfile₀, rfl⟩
  rcases exec_bind_eq_error.mp h with hwrite | ⟨_, j₂, hwrite, h⟩
  · obtain ⟨hdry, hfails, rfl⟩ := writeFile_eq_error hwrite
    exact ⟨[], j, logged_performed_nil c j, .makeAbove j _, .write ho hdry hfails⟩
  have hlogged := logged_of_writeFile hwrite
  rcases exec_bind_eq_error.mp h with hsnippet | ⟨s, j₃, -, hpush⟩
  · rw [(TemplateSource.exec_render _ _ _ _).1] at hsnippet
    obtain ⟨hfails, rfl⟩ := Prod.mk.inj hsnippet
    exact ⟨_, j₂, hlogged, .refl j₂, .snippet ho hfails⟩
  · cases hpush

/-- A table fails because it is refused, or for one of its kinds. -/
theorem emitTable_error {ts : List Table} {bs : List Combined} (hj : c.Since w₀ j.workspace)
    (hkinds : bs.map (·.kind) = c.enabledKinds) (hbs : ∀ b ∈ bs, Collected c w₀ ts b)
    (h : exec (c.emitTable bs t : Procedure Journal (List Combined)) j = (.error e, j')) :
    (j' = j ∧ ∃ k, c.collidingKind? t.name = some k
        ∧ e = .validation (.collision t.name k (c.artifactPath k t.name)))
      ∨ ∃ before k behind os os' j₁, c.enabledKinds = before ++ k :: behind
        ∧ c.GeneratesKinds w₀ t before os ∧ Journal.Logged (c.performed (os ++ os')) j j₁
        ∧ Journal.OnlyDirectories j₁ j' ∧ c.KindFails w₀ j₁.workspace t k os' e := by
  unfold emitTable at h
  rcases exec_bind_eq_error.mp h with hcheck | ⟨_, j₀, hcheck, hks⟩
  · exact .inl (exec_checkCollision_eq_error hcheck)
  obtain ⟨hclear, rfl⟩ := exec_checkCollision_eq_ok hcheck
  obtain ⟨before, b, behind, bs', j₁, rfl, hbefore, hb⟩ := exec_mapM_eq_error hks
  have hcollected : ∀ b ∈ before, Collected c w₀ ts b := fun b hb =>
    hbs b (List.mem_append_left _ hb)
  obtain ⟨os, hos, hlogged, hj₁, hkinds', hcollected'⟩ := emitKinds_ok hj hcollected hbefore
  obtain ⟨os', j₂, hlogged', honly, hfails⟩ := emitKind_error hj₁ hb
  refine .inr ⟨before.map (·.kind), b.kind, behind.map (·.kind), os, os', j₂, ?_, ?_, ?_, honly, hfails⟩
  · rw [← hkinds, List.map_append, List.map_cons]
  · refine ⟨hclear, hos, fun k hk => ?_⟩
    rw [← hkinds'] at hk
    obtain ⟨b', hb', rfl⟩ := List.mem_map.mp hk
    exact exists_of_mapM_eq_ok (hcollected' b' hb') (List.mem_append_right _ (.head _))
  · rw [performed_append]
    exact hlogged.append hlogged'

/-- What the tables before a failure have left. -/
theorem generates_of_emitTables {ts : List Table} {bs : List Combined}
    (h : exec (ts.foldlM c.emitTable (c.enabledKinds.map Combined.empty)
      : Procedure Journal (List Combined)) ⟨w₀, []⟩ = (.ok bs, j')) :
    ∃ os, c.Generates w₀ ts os ∧ Journal.Logged (c.performed os) ⟨w₀, []⟩ j'
      ∧ c.Since w₀ j'.workspace ∧ bs.map (·.kind) = c.enabledKinds
      ∧ ∀ b ∈ bs, Collected c w₀ ts b := by
  obtain ⟨files, hfiles, hlogged, hsince, hkinds, hbs, hclear⟩ :=
    emitTables_ok (Since.refl c w₀) (kinds_empty c) (collected_empty c w₀) h
  refine ⟨files.flatten, ⟨hclear, ⟨files, hfiles, rfl⟩, ?_⟩, hlogged, hsince, hkinds, hbs⟩
  intro t ht k hk
  rw [← hkinds] at hk
  obtain ⟨b, hb, rfl⟩ := List.mem_map.mp hk
  exact exists_of_mapM_eq_ok (hbs b hb) ht

/-- A combined file that cannot be written. -/
theorem emitCombined_error {ts : List Table} {bs : List Combined}
    (hkinds : bs.map (·.kind) = c.enabledKinds) (hbs : ∀ b ∈ bs, Collected c w₀ ts b)
    (h : exec (c.emitCombined bs : Procedure Journal Unit) j = (.error e, j')) :
    ∃ before k behind os o j₁, c.enabledKinds = before ++ k :: behind
      ∧ before.mapM (c.combinedOutput w₀ ts) = .ok os ∧ c.combinedOutput w₀ ts k = .ok o
      ∧ Journal.Logged (c.performed os) j j₁ ∧ Journal.OnlyDirectories j₁ j'
      ∧ c.dryRun = false ∧ WriteFails j₁.workspace o e := by
  unfold emitCombined at h
  obtain ⟨before, b, behind, j₁, rfl, hbefore, hb⟩ := exec_forM_eq_error h
  have hcollected : ∀ b ∈ before, Collected c w₀ ts b :=
    fun b hb => hbs b (List.mem_append_left _ hb)
  obtain ⟨os, hos, hlogged⟩ := emitCombined_ok hcollected hbefore
  obtain ⟨hdry, hfails, rfl⟩ := writeFile_eq_error hb
  have ho := (hbs b (List.mem_append_right _ (.head _))).combinedOutput
  refine ⟨before.map (·.kind), b.kind, behind.map (·.kind), os, _, j₁, ?_, hos, ho, hlogged,
    .makeAbove j₁ _, hdry, hfails⟩
  rw [← hkinds, List.map_append, List.map_cons]

end Steps

/-! ## Failed runs -/

section Runs

variable [Template.Engine] [GoFormatter] {c : Config} {sql : Text} {e : ScaffoldError}

/-- A run that fails has recorded the files before the failing step. -/
theorem run_error {w₀ : Workspace} {j' : Journal}
    (h : exec (c.run sql : Procedure Journal Report) ⟨w₀, []⟩ = (.error e, j')) :
    ∃ os j₁, c.Stops w₀ j₁.workspace sql os e ∧ Journal.Logged (c.performed os) ⟨w₀, []⟩ j₁
      ∧ Journal.OnlyDirectories j₁ j' := by
  rw [run_eq_emit] at h
  unfold emit at h
  cases hsql : Sql.statements sql with
  | error e' =>
    have hread : Schema.read sql = ⟨[], some (.unreadable e')⟩ := by
      rw [Schema.read, hsql]
    rw [hread] at h
    cases h
    exact ⟨[], _, .split hsql, logged_performed_nil c _, .refl _⟩
  | ok statements =>
    rw [Schema.read_of_statements hsql] at h
    rcases exec_bind_eq_error.mp h with htables | ⟨bs, j₁, htables, h⟩
    · -- a table fails behind those before it
      obtain ⟨done, t, later, bs, j₁, hselected, hdone, ht⟩ := exec_foldlM_eq_error htables
      obtain ⟨before, s, behind, hstatements, hbefore, hdefines⟩ := exists_defines hselected
      obtain ⟨os, hgenerates, hlogged, hsince, hkinds, hbs⟩ := generates_of_emitTables hdone
      have hreaches : c.Reaches w₀ sql s os :=
        ⟨before, behind, done, hstatements ▸ hsql, hbefore, hgenerates⟩
      rcases emitTable_error hsince hkinds hbs ht with ⟨rfl, k, hk, rfl⟩ |
        ⟨before, k, behind, os₁, os₂, j₂, hk, hgenerates', hlogged', honly, hfails⟩
      · exact ⟨os, _, .collision hreaches hdefines hk, hlogged, .refl _⟩
      · refine ⟨(os ++ os₁) ++ os₂, j₂, .kind ⟨s, before, behind, os, os₁, hreaches, hdefines, hk,
          hgenerates', rfl⟩ hfails, ?_, honly⟩
        rw [List.append_assoc, performed_append]
        exact hlogged.append hlogged'
    obtain ⟨os, hgenerates, hlogged, hsince, hkinds, hbs⟩ := generates_of_emitTables htables
    cases hfailure : (Schema.ofStatements statements).failure with
    | some e' =>
      rw [hfailure] at h
      cases h
      obtain ⟨before, s, behind, hstatements, hbefore, hvoid, hparse⟩ := exists_of_failure hfailure
      exact ⟨os, _, .statement ⟨before, behind, _, hstatements ▸ hsql, hbefore, hgenerates⟩ hvoid
        hparse, hlogged, .refl _⟩
    | none =>
      rw [hfailure] at h
      rcases exec_bind_eq_error.mp h with hcombined | ⟨_, _, -, hreport⟩
      · obtain ⟨before, k, behind, os', o, j₂, hk, hos', ho, hlogged', honly, hdry, hfails⟩ :=
          emitCombined_error hkinds hbs hcombined
        have htablesOf : c.tablesOf statements = .ok (c.selected (Schema.ofStatements statements)) :=
          tablesOf_eq_ok.mpr ⟨_, Schema.mapM_parse_eq_ok hfailure, rfl⟩
        refine ⟨os ++ os', j₂, .combined hsql htablesOf hgenerates hk hos' ho hdry hfails, ?_, honly⟩
        rw [performed_append]
        exact hlogged.append hlogged'
      · cases hreport

/-- A run that fails has written the files before the failing step, in their order, and
changed nothing else but that directories are new: every other file is as it was. -/
theorem prefix_of_failed_run {w w' : Workspace}
    (h : exec (c.run sql : Procedure Workspace Report) w = (.error e, w')) :
    ∃ os w₁, c.Stops w w₁ sql os e
      ∧ exec (c.run sql : Procedure Journal Report) ⟨w, []⟩
        = (.error e, ⟨w', (c.performed os).map Output.record⟩)
      ∧ WroteAll (c.performed os) w w₁ ∧ Extends (fun _ => False) w₁ w'
      ∧ Extends (fun place => ∃ o ∈ c.performed os, w'.resolve o.path = .ok place) w w' := by
  have hmirror := mirrors_run c sql ⟨w, []⟩
  rw [h] at hmirror
  rcases hrun : exec (c.run sql : Procedure Journal Report) ⟨w, []⟩ with ⟨result, j'⟩
  rw [hrun] at hmirror
  obtain ⟨rfl, rfl⟩ := Prod.mk.inj hmirror
  obtain ⟨os, j₁, hstops, hlogged, honly⟩ := run_error hrun
  have hwrites : j'.writes = (c.performed os).map Output.record :=
    honly.writes.trans (hlogged.writes.trans (List.nil_append _))
  refine ⟨os, j₁.workspace, hstops, by rw [← hwrites], hlogged.workspace, honly.workspace, ?_⟩
  refine (hlogged.workspace.others.mono ?_).trans (honly.workspace.mono fun _ => False.elim)
  rintro place ⟨o, ho, hplace⟩
  exact ⟨o, ho, honly.workspace.resolve hplace⟩

end Runs

end Config

/-! ## A table that is refused -/

namespace Sample

/-- The second table has the name of the combined file of its kind. -/
def refused : Text := "CREATE TABLE IF NOT EXISTS a (); CREATE TABLE IF NOT EXISTS api ()".toList

def refusal : ScaffoldError :=
  .validation (.collision "api".toList .handler "o/handlers/api.go".toList)

/-- The workspace with the file of the first table. -/
def halfway : Workspace where
  entries := workspace.entries ++
    [(["o".toList], .directory),
      (["o".toList, "handlers".toList], .directory),
      (["o".toList, "handlers".toList, "a.go".toList], .file "file".toUTF8)]

end Sample

theorem Config.prefix_of_failed_run_refused :
    ∃ os w₁, Sample.config.Stops Sample.workspace w₁ Sample.refused os Sample.refusal
      ∧ exec (Sample.config.run Sample.refused : Procedure Journal Report) ⟨Sample.workspace, []⟩
        = (.error Sample.refusal,
          ⟨Sample.halfway, (Sample.config.performed os).map Output.record⟩)
      ∧ WroteAll (Sample.config.performed os) Sample.workspace w₁
      ∧ Extends (fun _ => False) w₁ Sample.halfway
      ∧ Extends (fun place => ∃ o ∈ Sample.config.performed os,
        Sample.halfway.resolve o.path = .ok place) Sample.workspace Sample.halfway :=
  prefix_of_failed_run (c := Sample.config) (by decide +kernel)

end TableScaffold
