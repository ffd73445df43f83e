import TableScaffold.Proofs.Generation.Plan
import TableScaffold.Standalone

set_option autoImplicit false

/-!
# A run follows its plan

One step renders a file, writes it and renders a snippet (`emitKind_ok`).  The
workspace has then grown since the start of the run in a way that leaves every
template as it was (`Since`), so each later rendering gives what the plan of the
start says, and the lists of outputs and snippets grow together with the journal.
-/

namespace TableScaffold

open Procedure Workspace

/-! ## Names of outputs and of templates -/

/-- A place that a run may write to. -/
def IsOutputPlace (place : Place) : Prop :=
  ∃ above name, place = above ++ [name] ∧ name.getLast? = some 'o'

/-- A name that a run reads a template from. -/
structure IsTemplateName (name : Text) : Prop where
  isName : Path.IsName name
  getLast? : name.getLast? = some 'l'

theorem IsTemplateName.not_isOutputPlace {name : Text} (h : IsTemplateName name) (above : Place) :
    ¬ IsOutputPlace (above ++ [name]) := by
  rintro ⟨_, other, heq, hlast⟩
  have hname : name = other := by simpa using (List.append_inj' heq rfl).2
  rw [← hname, h.getLast?] at hlast
  cases hlast

namespace ArtifactKind

theorem isTemplateName_fileTemplate (k : ArtifactKind) : IsTemplateName k.fileTemplate where
  isName := by
    refine Path.isName_of_getLast? (c := 'l') ?_ (by decide) ?_ <;> cases k <;> decide
  getLast? := by cases k <;> decide

theorem isTemplateName_snippetTemplate (k : ArtifactKind) : IsTemplateName k.snippetTemplate where
  isName := by
    refine Path.isName_of_getLast? (c := 'l') ?_ (by decide) ?_ <;> cases k <;> decide
  getLast? := by cases k <;> decide

theorem getLast?_extension (k : ArtifactKind) : k.extension.getLast? = some 'o' := by
  cases k <;> rfl

end ArtifactKind

theorem Config.getLast?_artifactPath (c : Config) (k : ArtifactKind) (table : Text) :
    (c.artifactPath k table).getLast? = some 'o' := by
  refine Path.getLast?_join ?_
  obtain ⟨front, hfront⟩ := List.getLast?_eq_some_iff.mp k.getLast?_extension
  rw [hfront, ← List.cons_append, ← List.append_assoc, List.getLast?_concat]

/-- A write leads to an output place. -/
theorem Workspace.isOutputPlace_of_resolve {w : Workspace} {p : Path} {place : Place}
    (hlast : p.getLast? = some 'o') (h : w.resolve p = .ok place) : IsOutputPlace place :=
  exists_name_of_resolve hlast (by decide) (by decide) h

/-! ## The workspace since the start of a run -/

/-- What holds of a workspace during a run: nothing but outputs has changed, and the
templates are where they can be found as soon as something has been rendered. -/
structure Config.Since (c : Config) (w₀ w : Workspace) : Prop where
  others : Extends IsOutputPlace w₀ w
  found : w = w₀ ∨ c.templateSource.Found w₀

namespace Config.Since

variable {c : Config} {w₀ : Workspace}

theorem refl (c : Config) (w₀ : Workspace) : c.Since w₀ w₀ := ⟨.refl w₀, .inl rfl⟩

/-- What is rendered during a run is what the start of the run says. -/
theorem renderIn [Template.Engine] {w : Workspace} (h : c.Since w₀ w) {name text : Text}
    {slots : Slots}
    (hname : IsTemplateName name)
    (hrender : c.templateSource.renderIn w name slots = .ok text) :
    c.templateSource.renderIn w₀ name slots = .ok text ∧ c.templateSource.Found w₀ := by
  rcases h.found with rfl | hfound
  · exact ⟨hrender, TemplateSource.found_of_renderIn hname.isName hrender⟩
  · exact ⟨TemplateSource.renderIn_of_extends hfound h.others hname.isName
      hname.not_isOutputPlace hrender, hfound⟩

theorem logged [GoFormatter] {os : List Output} {j j' : Journal} (h : c.Since w₀ j.workspace)
    (hfound : c.templateSource.Found w₀) (hos : ∀ o ∈ os, o.path.getLast? = some 'o')
    (hlogged : Journal.Logged os j j') : c.Since w₀ j'.workspace where
  others := h.others.trans (hlogged.workspace.others.mono fun _ ⟨o, ho, hplace⟩ =>
    isOutputPlace_of_resolve (hos o ho) hplace)
  found := .inr hfound

end Config.Since

/-! ## Steps -/

namespace Config

section Steps

variable [Template.Engine] [GoFormatter]
variable {c : Config} {w₀ : Workspace} {t : Table} {j j' : Journal}

/-- One step renders the file of a table, writes it, and collects the snippet. -/
theorem emitKind_ok {b b' : Combined} (hj : c.Since w₀ j.workspace)
    (h : exec (c.emitKind t b : Procedure Journal Combined) j = (.ok b', j')) :
    ∃ o s, c.tableOutput w₀ t b.kind = .ok o ∧ c.snippet w₀ b.kind t = .ok s
      ∧ b' = b.push s ∧ Journal.Logged (c.performed [o]) j j' ∧ c.Since w₀ j'.workspace := by
  unfold emitKind at h
  simp only [exec_bind_eq_ok] at h
  obtain ⟨text, j₁, hrender, _, j₂, hwrite, s, j₃, hsnippet, hpush⟩ := h
  rw [(TemplateSource.exec_render _ _ _ _).1] at hrender hsnippet
  obtain ⟨hfile, rfl⟩ := Prod.mk.inj hrender
  obtain ⟨hsnippet', rfl⟩ := Prod.mk.inj hsnippet
  cases hpush
  -- the file, its journal entry, and then the snippet in the workspace with that file
  obtain ⟨hfile₀, hfound⟩ := hj.renderIn b.kind.isTemplateName_fileTemplate hfile
  have hlogged := logged_of_writeFile hwrite
  have hpath : ∀ o ∈ c.performed [c.output (c.artifactPath b.kind t.name) text],
      o.path.getLast? = some 'o' := by
    intro o ho
    rw [List.mem_singleton.mp (mem_of_mem_performed ho)]
    exact getLast?_artifactPath c b.kind t.name
  have hj₂ := hj.logged hfound hpath hlogged
  obtain ⟨hsnippet₀, -⟩ := hj₂.renderIn b.kind.isTemplateName_snippetTemplate hsnippet'
  exact ⟨_, s, tableOutput_eq_ok.mpr ⟨text, hfile₀, rfl⟩, hsnippet₀, rfl, hlogged, hj₂⟩

/-- The snippets of a combined file are those of the tables so far. -/
def Collected (c : Config) (w₀ : Workspace) (ts : List Table) (b : Combined) : Prop :=
  ts.mapM (c.snippet w₀ b.kind) = .ok b.snippets

omit [GoFormatter] in
theorem Collected.combinedOutput {ts : List Table} {b : Combined} (h : Collected c w₀ ts b) :
    c.combinedOutput w₀ ts b.kind = .ok (c.output (c.combinedPath b.kind) b.contents) :=
  combinedOutput_eq_ok.mpr ⟨b.snippets, h, rfl⟩

/-- For one table, every kind adds its file to the journal and its snippet to the
combined file of that kind. -/
theorem emitKinds_ok {ts : List Table} {bs bs' : List Combined}
    (hj : c.Since w₀ j.workspace) (hbs : ∀ b ∈ bs, Collected c w₀ ts b)
    (h : exec (bs.mapM (c.emitKind t) : Procedure Journal (List Combined)) j = (.ok bs', j')) :
    ∃ os, (bs.map (·.kind)).mapM (c.tableOutput w₀ t) = .ok os
      ∧ Journal.Logged (c.performed os) j j' ∧ c.Since w₀ j'.workspace
      ∧ bs'.map (·.kind) = bs.map (·.kind)
      ∧ ∀ b ∈ bs', Collected c w₀ (ts ++ [t]) b := by
  induction bs generalizing j bs' with
  | nil =>
    cases h
    exact ⟨[], rfl, logged_performed_nil c _, hj, rfl, nofun⟩
  | cons b bs ih =>
    rw [List.forall_mem_cons] at hbs
    simp only [List.mapM_cons, exec_bind_eq_ok] at h
    obtain ⟨b', j₁, hb, bs'', j₂, hrest, hcons⟩ := h
    cases hcons
    obtain ⟨o, s, ho, hs, rfl, hlogged, hj₁⟩ := emitKind_ok hj hb
    obtain ⟨os, hos, hlogged', hj₂, hkinds, hcollected⟩ := ih hj₁ hbs.2 hrest
    refine ⟨o :: os, mapM_cons_eq_ok.mpr ⟨o, os, ho, hos, rfl⟩, ?_, hj₂, ?_, ?_⟩
    · rw [← List.singleton_append, performed_append]
      exact hlogged.append hlogged'
    · rw [List.map_cons, List.map_cons, hkinds, Combined.kind_push]
    · refine List.forall_mem_cons.mpr ⟨?_, hcollected⟩
      exact mapM_concat_eq_ok hbs.1 hs

omit [Template.Engine] [GoFormatter] in
theorem exec_checkCollision_eq_ok {σ : Type} [FileAccess (StateM σ)] {table : Text} {s s' : σ}
    (h : exec (c.checkCollision table : Procedure σ Unit) s = (.ok (), s')) :
    c.collidingKind? table = none ∧ s' = s := by
  unfold checkCollision at h
  cases hkind : c.collidingKind? table with
  | none =>
    rw [hkind] at h
    cases h
    exact ⟨rfl, rfl⟩
  | some k =>
    rw [hkind] at h
    cases h

/-- Table by table, the files of the enabled kinds are added to the journal. -/
theorem emitTables_ok {done ts : List Table} {bs bs' : List Combined}
    (hj : c.Since w₀ j.workspace) (hkinds : bs.map (·.kind) = c.enabledKinds)
    (hbs : ∀ b ∈ bs, Collected c w₀ done b)
    (h : exec (ts.foldlM c.emitTable bs : Procedure Journal (List Combined)) j = (.ok bs', j')) :
    ∃ files, ts.mapM (fun t => c.enabledKinds.mapM (c.tableOutput w₀ t)) = .ok files
      ∧ Journal.Logged (c.performed files.flatten) j j' ∧ c.Since w₀ j'.workspace
      ∧ bs'.map (·.kind) = c.enabledKinds ∧ (∀ b ∈ bs', Collected c w₀ (done ++ ts) b)
      ∧ ∀ t ∈ ts, c.collidingKind? t.name = none := by
  induction ts generalizing j bs done with
  | nil =>
    cases h
    exact ⟨[], rfl, logged_performed_nil c _, hj, hkinds, by simpa using hbs, nofun⟩
  | cons t ts ih =>
    rw [List.foldlM_cons, exec_bind_eq_ok] at h
    obtain ⟨bs₁, j₁, ht, hrest⟩ := h
    unfold emitTable at ht
    obtain ⟨_, j₀, hcheck, hkind⟩ := exec_bind_eq_ok.mp ht
    obtain ⟨hclear, rfl⟩ := exec_checkCollision_eq_ok hcheck
    obtain ⟨os, hos, hlogged, hj₁, hkinds₁, hbs₁⟩ := emitKinds_ok hj hbs hkind
    rw [hkinds] at hos hkinds₁
    obtain ⟨files, hfiles, hlogged', hj', hkinds', hbs', hclears⟩ := ih hj₁ hkinds₁ hbs₁ hrest
    refine ⟨os :: files, mapM_cons_eq_ok.mpr ⟨os, files, hos, hfiles, rfl⟩, ?_, hj', hkinds', ?_, ?_⟩
    · rw [List.flatten_cons, performed_append]
      exact hlogged.append hlogged'
    · simpa using hbs'
    · exact List.forall_mem_cons.mpr ⟨hclear, hclears⟩

/-- The combined files are added to the journal in the order of the kinds. -/
theorem emitCombined_ok {ts : List Table} {bs : List Combined}
    (hbs : ∀ b ∈ bs, Collected c w₀ ts b)
    (h : exec (c.emitCombined bs : Procedure Journal Unit) j = (.ok (), j')) :
    ∃ os, (bs.map (·.kind)).mapM (c.combinedOutput w₀ ts) = .ok os
      ∧ Journal.Logged (c.performed os) j j' := by
  unfold emitCombined at h
  induction bs generalizing j with
  | nil =>
    cases h
    exact ⟨[], rfl, logged_performed_nil c _⟩
  | cons b bs ih =>
    rw [List.forall_mem_cons] at hbs
    obtain ⟨_, j₁, hwrite, hrest⟩ := exec_bind_eq_ok.mp h
    have hlogged := logged_of_writeFile hwrite
    obtain ⟨os, hos, hlogged'⟩ := ih hbs.2 hrest
    refine ⟨_, mapM_cons_eq_ok.mpr ⟨_, os, hbs.1.combinedOutput, hos, rfl⟩, ?_⟩
    rw [← List.singleton_append, performed_append]
    exact hlogged.append hlogged'

/-! ## Runs -/

omit [GoFormatter] in
theorem collected_empty (c : Config) (w₀ : Workspace) :
    ∀ b ∈ c.enabledKinds.map Combined.empty, Collected c w₀ [] b :=
  List.forall_mem_map.mpr fun _ _ => rfl

theorem mirrors_emitTable (c : Config) (bs : List Combined) (t : Table) :
    Mirrors (c.emitTable bs t) (c.emitTable bs t) := by
  refine Mirrors.bind ?_ fun _ => mirrors_mapM (fun b => ?_) bs
  · unfold checkCollision
    cases c.collidingKind? t.name with
    | none => exact mirrors_pure ()
    | some k => exact mirrors_throw _
  · refine (TemplateSource.mirrors_render _ _ _).bind fun text => ?_
    refine (mirrors_writeFile c _ text).bind fun _ => ?_
    exact (TemplateSource.mirrors_render _ _ _).bind fun s => mirrors_pure (b.push s)

/-- A run on a journal does to the workspace what a run on the workspace does. -/
theorem mirrors_run (c : Config) (sql : Text) : Mirrors (c.run sql) (c.run sql) := by
  have hend (combined : List Combined) :
      Mirrors (do c.emitCombined combined; return c.report (c.selected (Schema.read sql)))
        (do c.emitCombined combined; return c.report (c.selected (Schema.read sql))) :=
    (mirrors_forM (fun b => mirrors_writeFile c _ _) combined).bind fun _ => mirrors_pure _
  rw [run_eq_emit, run_eq_emit]
  unfold emit
  refine (mirrors_foldlM (mirrors_emitTable c) _ _).bind fun combined => ?_
  cases (Schema.read sql).failure with
  | none => exact hend combined
  | some e => exact mirrors_throw _

/-- What a run leaves in the journal, step by step. -/
theorem run_ok {sql : Text} {report : Report} {w₀ : Workspace} {j' : Journal}
    (hdry : c.dryRun = false)
    (h : exec (c.run sql : Procedure Journal Report) ⟨w₀, []⟩ = (.ok report, j')) :
    ∃ plan, c.plan w₀ sql = .ok plan ∧ Journal.Logged plan.outputs ⟨w₀, []⟩ j'
      ∧ report = c.report plan.tables := by
  rw [run_eq_emit] at h
  unfold emit at h
  obtain ⟨bs, j₁, htables, h⟩ := exec_bind_eq_ok.mp h
  cases hfailure : (Schema.read sql).failure with
  | some e =>
    rw [hfailure] at h
    cases h
  | none =>
    rw [hfailure] at h
    obtain ⟨_, j₂, hcombined, hreport⟩ := exec_bind_eq_ok.mp h
    cases hreport
    obtain ⟨files, hfiles, hlogged, -, hkinds', hbs, -⟩ := emitTables_ok (Since.refl c w₀)
      (kinds_empty c) (collected_empty c w₀) htables
    obtain ⟨os, hos, hlogged'⟩ := emitCombined_ok hbs hcombined
    rw [hkinds', List.nil_append] at hos
    rw [performed_of_not_dryRun hdry] at hlogged hlogged'
    exact ⟨⟨c.selected (Schema.read sql), files.flatten ++ os⟩,
      plan_eq_ok.mpr ⟨files, os, plannedTables_eq_ok hfailure, hfiles, hos, rfl⟩,
      hlogged.append hlogged', rfl⟩

/-- A run on a workspace is recorded by the same run on a journal. -/
theorem exists_writes_of_run {sql : Text} {result : Except ScaffoldError Report} {w w' : Workspace}
    (h : exec (c.run sql : Procedure Workspace Report) w = (result, w')) :
    ∃ writes, exec (c.run sql : Procedure Journal Report) ⟨w, []⟩ = (result, ⟨w', writes⟩) := by
  have hmirror := mirrors_run c sql ⟨w, []⟩
  rw [h] at hmirror
  rcases hrun : exec (c.run sql : Procedure Journal Report) ⟨w, []⟩ with ⟨result', j'⟩
  rw [hrun] at hmirror
  obtain ⟨rfl, rfl⟩ := Prod.mk.inj hmirror
  exact ⟨j'.writes, rfl⟩

/-- A run on a workspace leaves what the same run records in a journal. -/
theorem wroteAll_of_run {sql : Text} {report : Report} {w w' : Workspace}
    (hdry : c.dryRun = false)
    (h : exec (c.run sql : Procedure Workspace Report) w = (.ok report, w')) :
    ∃ plan, c.plan w sql = .ok plan
      ∧ exec (c.run sql : Procedure Journal Report) ⟨w, []⟩
        = (.ok report, ⟨w', plan.outputs.map Output.record⟩)
      ∧ report = ⟨plan.tables.map (·.name), plan.outputs.map (·.path)⟩
      ∧ WroteAll plan.outputs w w' := by
  obtain ⟨writes, hrun⟩ := exists_writes_of_run h
  obtain ⟨plan, hplan, hlogged, hreport⟩ := run_ok hdry hrun
  obtain rfl : writes = plan.outputs.map Output.record :=
    hlogged.writes.trans (List.nil_append _)
  refine ⟨plan, hplan, hrun, ?_, hlogged.workspace⟩
  rw [hreport, paths_plan hplan]
  rfl

/-- A run that succeeds makes the files of its plan, in that order, and nothing else but
the directories above them.  The texts of the plan are what is written; a Go file is given to
the formatter behind its write if the configuration asks for that, and in no other case. -/
theorem run_refines_plan {sql : Text} {report : Report} {w w' : Workspace}
    (hdry : c.dryRun = false)
    (h : exec (c.run sql : Procedure Workspace Report) w = (.ok report, w')) :
    ∃ plan, c.plan w sql = .ok plan
      ∧ exec (c.run sql : Procedure Journal Report) ⟨w, []⟩
        = (.ok report, ⟨w', plan.outputs.map Output.record⟩)
      ∧ report = ⟨plan.tables.map (·.name), plan.outputs.map (·.path)⟩
      ∧ WroteAll plan.outputs w w' ∧ w' = plan.outputs.foldl Workspace.write w
      ∧ (∀ o ∈ plan.outputs,
        o.formatted = (c.formatGo && o.path.extension? = some "go".toList))
      ∧ (c.formatGo = false →
        ∀ o ∈ plan.outputs, o.bytes = FileAccess.bytesOfText o.text) := by
  obtain ⟨plan, hplan, hrecord, hreport, hwrote⟩ := wroteAll_of_run hdry h
  exact ⟨plan, hplan, hrecord, hreport, hwrote, hwrote.eq_foldl, formatted_of_plan hplan,
    bytes_of_plan hplan⟩

end Steps

end Config

/-! ## Runs on two tables -/

namespace Sample

/-- A directory with short templates for handlers. -/
def workspace : Workspace where
  entries :=
    [(["t".toList], .directory),
      (["t".toList, "handler.tmpl".toList], .file "file".toUTF8),
      (["t".toList, "handler_aggregate.tmpl".toList], .file "row".toUTF8)]

def config : Config :=
  Config.only { templateDir := some "t".toList, outputDir := "o".toList } .handler

def schema : Text := "CREATE TABLE IF NOT EXISTS a (); CREATE TABLE IF NOT EXISTS b ()".toList

def report : Report where
  tables := ["a".toList, "b".toList]
  files := ["o/handlers/a.go".toList, "o/handlers/b.go".toList, "o/handlers/api.go".toList]

/-- The workspace with the files of the two tables. -/
def generated : Workspace where
  entries := workspace.entries ++
    [(["o".toList], .directory),
      (["o".toList, "handlers".toList], .directory),
      (["o".toList, "handlers".toList, "a.go".toList], .file "file".toUTF8),
      (["o".toList, "handlers".toList, "b.go".toList], .file "file".toUTF8),
      (["o".toList, "handlers".toList, "api.go".toList], .file "row\nrow\n".toUTF8)]

/-! ### Two kinds, templates with slots, and a formatter -/

/-- A directory with templates for messages and for handlers. -/
def slotted : Workspace where
  entries :=
    [(["t".toList], .directory),
      (["t".toList, "proto.tmpl".toList], .file "\x7b\x7b create_message \x7d\x7d\n".toUTF8),
      (["t".toList, "proto_aggregate.tmpl".toList], .file "rpc \x7b\x7b entity \x7d\x7d".toUTF8),
      (["t".toList, "handler.tmpl".toList],
        .file "package api\nfunc \x7b\x7b entity \x7d\x7d()\x7b\x7d\n".toUTF8),
      (["t".toList, "handler_aggregate.tmpl".toList],
        .file "handle \x7b\x7b route \x7d\x7d".toUTF8)]

def formatting : Config where
  templateDir := some "t".toList
  outputDir := "o".toList
  formatGo := true
  enabled := .ofFunction fun k => k = .proto || k = .handler

def columned : Text :=
  ("CREATE TABLE IF NOT EXISTS stock (id uuid, amount int);\n"
    ++ "CREATE TABLE IF NOT EXISTS item (name text NOT NULL)").toList

/-- The formatter as it is on the handlers of two tables; what is no Go file it refuses. -/
@[reducible] def spacing : GoFormatter where
  format? _ bytes :=
    ["Stock", "Item"].findSome? fun entity =>
      if bytes = ("package api\nfunc " ++ entity ++ "()\x7b\x7d\n").toUTF8 then
        some ("package api\n\nfunc " ++ entity ++ "() \x7b\x7d\n").toUTF8
      else none

def columnedReport : Report where
  tables := ["stock".toList, "item".toList]
  files :=
    ["o/protos/stock.proto".toList, "o/handlers/stock.go".toList, "o/protos/item.proto".toList,
      "o/handlers/item.go".toList, "o/protos/storehouse_service.proto".toList,
      "o/handlers/api.go".toList]

/-- The workspace with the files of the two tables, of which the Go files are formatted. -/
def columnedGenerated : Workspace where
  entries := slotted.entries ++
    [(["o".toList], .directory),
      (["o".toList, "protos".toList], .directory),
      (["o".toList, "protos".toList, "stock.proto".toList],
        .file "message CreateStockRequest \x7b\n    int32 amount = 1;\n\x7d\n".toUTF8),
      (["o".toList, "handlers".toList], .directory),
      (["o".toList, "handlers".toList, "stock.go".toList],
        .file "package api\n\nfunc Stock() \x7b\x7d\n".toUTF8),
      (["o".toList, "protos".toList, "item.proto".toList],
        .file "message CreateItemRequest \x7b\n    string name = 1;\n\x7d\n".toUTF8),
      (["o".toList, "handlers".toList, "item.go".toList],
        .file "package api\n\nfunc Item() \x7b\x7d\n".toUTF8),
      (["o".toList, "protos".toList, "storehouse_service.proto".toList],
        .file "rpc Stock\nrpc Item\n".toUTF8),
      (["o".toList, "handlers".toList, "api.go".toList],
        .file "handle /stock\nhandle /item\n".toUTF8)]

end Sample

theorem Config.run_refines_plan_sample :
    letI := Sample.spacing
    ∃ plan, Sample.formatting.plan Sample.slotted Sample.columned = .ok plan
      ∧ exec (Sample.formatting.run Sample.columned : Procedure Journal Report) ⟨Sample.slotted, []⟩
        = (.ok Sample.columnedReport,
          ⟨Sample.columnedGenerated, plan.outputs.map Output.record⟩)
      ∧ Sample.columnedReport = ⟨plan.tables.map (·.name), plan.outputs.map (·.path)⟩
      ∧ WroteAll plan.outputs Sample.slotted Sample.columnedGenerated
      ∧ Sample.columnedGenerated = plan.outputs.foldl Workspace.write Sample.slotted
      ∧ (∀ o ∈ plan.outputs,
        o.formatted = (Sample.formatting.formatGo && o.path.extension? = some "go".toList))
      ∧ (Sample.formatting.formatGo = false →
        ∀ o ∈ plan.outputs, o.bytes = FileAccess.bytesOfText o.text) :=
  letI := Sample.spacing
  Config.run_refines_plan (c := Sample.formatting) rfl (by decide +kernel)

end TableScaffold
