import TableScaffold.Proofs.Generation.Delivery
import TableScaffold.Proofs.Generation.Success

set_option autoImplicit false

/-!
# The artifacts of a schema

What a run makes of its tables does not depend on what it finds where it writes: the files of
the tables, and the texts of the combined files (`Config.Produces`).  A run that succeeds yields
them (`Config.yields_of_run`).
-/

namespace TableScaffold

open Procedure Workspace

/-- What is generated of a schema: the names of its tables, their files, and the texts of the
combined files. -/
structure Artifacts where
  tables : List Text
  files : List Output
  combined : ArtifactKind → Text

namespace Config

/-- The files of some artifacts: those of the tables, and a combined file for every kind that
is generated. -/
def outputs (c : Config) (a : Artifacts) : List Output :=
  a.files ++ c.enabledKinds.map fun k => c.output (c.combinedPath k) (a.combined k)

section Running

variable [Template.Engine]

/-- A run that ends with a report, leaves the workspace `w'`, and has generated the given
artifacts: it reports the tables and the files, table by table, and writes what it reports
unless it is a dry run. -/
structure Yields [GoFormatter] (c : Config) (sql : Text) (w : Workspace) (report : Report)
    (w' : Workspace) (a : Artifacts) : Prop where
  run : exec (c.run sql : Procedure Journal Report) ⟨w, []⟩
    = (.ok report, ⟨w', (c.performed (c.outputs a)).map Output.record⟩)
  report : report = ⟨a.tables, (c.outputs a).map (·.path)⟩
  files : a.files.map (·.path) = c.tablePaths a.tables

/-- The artifacts of some tables, rendered in a workspace. -/
structure Produces (c : Config) (w : Workspace) (ts : List Table) (a : Artifacts) : Prop where
  tables : a.tables = ts.map (·.name)
  generates : c.Generates w ts a.files
  combined : ∀ k ∈ c.enabledKinds,
    c.combinedOutput w ts k = .ok (c.output (c.combinedPath k) (a.combined k))

variable {c : Config} {w w' : Workspace} {ts : List Table} {a : Artifacts}

namespace Produces

theorem mapM_combinedOutput (h : c.Produces w ts a) :
    c.enabledKinds.mapM (c.combinedOutput w ts)
      = .ok (c.enabledKinds.map fun k => c.output (c.combinedPath k) (a.combined k)) :=
  mapM_eq_ok_of_forall h.combined

theorem paths (h : c.Produces w ts a) : a.files.map (·.path) = c.tablePaths a.tables := by
  obtain ⟨files, hfiles, heq⟩ := h.generates.files
  rw [heq, h.tables, paths_tableOutput hfiles, tablePaths, List.flatMap_map]

/-- What some tables make up is reported of them. -/
theorem report_eq (h : c.Produces w ts a) :
    c.report ts = ⟨a.tables, (c.outputs a).map (·.path)⟩ := by
  unfold outputs
  rw [List.map_append, List.map_map, h.paths, h.tables, tablePaths, List.flatMap_map]
  rfl

/-- Nothing else than these artifacts is generated of the tables. -/
theorem outputs_eq {files combined : List Output} (h : c.Produces w ts a)
    (hfiles : c.Generates w ts files)
    (hcombined : c.enabledKinds.mapM (c.combinedOutput w ts) = .ok combined) :
    files ++ combined = c.outputs a := by
  obtain ⟨rendered, hrendered, rfl⟩ := hfiles.files
  obtain ⟨rendered', hrendered', heq⟩ := h.generates.files
  obtain rfl := Except.ok.inj (hrendered.symm.trans hrendered')
  obtain rfl := Except.ok.inj (hcombined.symm.trans h.mapM_combinedOutput)
  rw [outputs, heq]

/-- With built-in templates the artifacts of tables are the same everywhere. -/
theorem of_builtin (hbuiltin : c.templateDir = none) (h : c.Produces w ts a) (w' : Workspace) :
    c.Produces w' ts a := by
  have hrender : c.templateSource.renderIn w = c.templateSource.renderIn w' := by
    rw [templateSource_of_builtin hbuiltin]
    funext name slots
    exact TemplateSource.renderIn_builtin w w' name slots
  have hfile : c.tableOutput w = c.tableOutput w' := by
    funext t k
    rw [tableOutput, tableOutput, hrender]
  have hsnippet : c.snippet w = c.snippet w' := by
    funext k t
    rw [snippet, snippet, hrender]
  obtain ⟨htables, ⟨hclear, hfiles, hsnippets⟩, hcombined⟩ := h
  rw [hfile] at hfiles
  rw [hsnippet] at hsnippets
  refine ⟨htables, ⟨hclear, hfiles, hsnippets⟩, ?_⟩
  intro k hk
  rw [← hcombined k hk, combinedOutput, combinedOutput, hsnippet]

end Produces

/-! ## Runs -/

variable {sql : Text} {report : Report}

/-- The text of the combined file of a kind, which is empty if it cannot be rendered. -/
def combinedText (c : Config) (w : Workspace) (ts : List Table) (k : ArtifactKind) : Text :=
  match c.combinedOutput w ts k with
  | .ok o => o.text
  | .error _ => []

theorem combinedOutput_of_ok {k : ArtifactKind} {o : Output}
    (h : c.combinedOutput w ts k = .ok o) :
    c.combinedOutput w ts k = .ok (c.output (c.combinedPath k) (c.combinedText w ts k)) := by
  rw [combinedText, h]
  obtain ⟨snippets, -, rfl⟩ := combinedOutput_eq_ok.mp h
  rfl

variable [GoFormatter]

/-- A run that succeeds has artifacts of its tables. -/
theorem exists_produces_of_run
    (h : exec (c.run sql : Procedure Workspace Report) w = (.ok report, w')) :
    (Schema.read sql).failure = none ∧ ∃ a, c.Produces w (c.selected (Schema.read sql)) a := by
  obtain ⟨hfailure, files, combined, hgenerates, hcombined, -⟩ := generates_of_run h
  refine ⟨hfailure, ⟨(c.selected (Schema.read sql)).map (·.name), files,
    c.combinedText w (c.selected (Schema.read sql))⟩, rfl, hgenerates, ?_⟩
  intro k hk
  obtain ⟨o, ho⟩ := exists_of_mapM_eq_ok hcombined hk
  exact combinedOutput_of_ok ho

/-- A run that succeeds yields the artifacts of its tables. -/
theorem yields_of_run (h : exec (c.run sql : Procedure Workspace Report) w = (.ok report, w'))
    (ha : c.Produces w (c.selected (Schema.read sql)) a) : c.Yields sql w report w' a where
  run := by
    obtain ⟨-, files, combined, hgenerates, hcombined, hrun⟩ := generates_of_run h
    rwa [ha.outputs_eq hgenerates hcombined] at hrun
  report := by rw [report_of_run h, ha.report_eq]
  files := ha.paths

end Running

end Config

end TableScaffold
