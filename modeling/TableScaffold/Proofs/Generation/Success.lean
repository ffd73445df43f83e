import TableScaffold.Proofs.Generation.Failure
import TableScaffold.Proofs.Generation.Overlap

set_option autoImplicit false

/-!
# What a successful run has generated

A run that succeeds has read its whole schema, refused no table, and rendered the files and
snippets of all tables that it takes (`generates_of_run`); the same holds of a dry run, which
leaves out the writes.
-/

namespace TableScaffold.Config

open Procedure Workspace

variable [Template.Engine] [GoFormatter] {c : Config} {sql : Text} {report : Report}
  {w w' : Workspace}

/-- A run that succeeds generates the files of all its tables, and their combined files. -/
theorem generates_of_run
    (h : exec (c.run sql : Procedure Workspace Report) w = (.ok report, w')) :
    (Schema.read sql).failure = none ∧ ∃ files combined,
      c.Generates w (c.selected (Schema.read sql)) files
      ∧ c.enabledKinds.mapM (c.combinedOutput w (c.selected (Schema.read sql))) = .ok combined
      ∧ exec (c.run sql : Procedure Journal Report) ⟨w, []⟩
        = (.ok report, ⟨w', (c.performed (files ++ combined)).map Output.record⟩) := by
  obtain ⟨writes, hrun⟩ := exists_writes_of_run h
  have hsteps := hrun
  rw [run_eq_emit] at hsteps
  unfold emit at hsteps
  obtain ⟨bs, j, htables, hsteps⟩ := exec_bind_eq_ok.mp hsteps
  cases hfailure : (Schema.read sql).failure with
  | some e =>
    rw [hfailure] at hsteps
    cases hsteps
  | none =>
    rw [hfailure] at hsteps
    obtain ⟨_, j', hcombined, hreport⟩ := exec_bind_eq_ok.mp hsteps
    obtain ⟨-, rfl⟩ := Prod.mk.inj hreport
    obtain ⟨files, hgenerates, hlogged, -, hkinds, hbs⟩ := generates_of_emitTables htables
    obtain ⟨combined, hcombined', hlogged'⟩ := emitCombined_ok hbs hcombined
    rw [hkinds] at hcombined'
    refine ⟨rfl, files, combined, hgenerates, hcombined', ?_⟩
    have hwrites := (hlogged.append hlogged').writes
    rw [← performed_append] at hwrites
    rw [hrun, ← hwrites.trans (List.nil_append _)]

/-- No table of a run that succeeds has the file of a combined file. -/
theorem collidingKind?_of_run
    (h : exec (c.run sql : Procedure Workspace Report) w = (.ok report, w')) {table : Text}
    (htable : table ∈ report.tables) : c.collidingKind? table = none := by
  obtain ⟨-, files, combined, hgenerates, -⟩ := generates_of_run h
  rw [report_of_run h] at htable
  obtain ⟨t, ht, rfl⟩ := List.mem_map.mp htable
  exact hgenerates.clear t ht

end TableScaffold.Config
