import TableScaffold.CommandLine.Program
import TableScaffold.Proofs.Files.Tree
import TableScaffold.Proofs.Generation.Gluing

set_option autoImplicit false

/-!
# Kinds of artifacts are independent

With built-in templates every output of a run belongs to one kind of artifact, and is made
from a table and the configuration alone (`Config.generated`).  So the outputs of a run for one
kind are those among the outputs of the whole run that belong to it (`generated_only`).  The
other kinds do not have to make room for them either: what the whole run has written is still
there in the end, and what was written of it before could be written without the rest
(`Attempt.complete_of_beneath`).  A run for one kind succeeds if the whole run does, and writes
what the whole run writes for that kind, in the same order (`run_only`).
-/

namespace TableScaffold

open Procedure Workspace Template

namespace Config

/-! ## Outputs by kind -/

/-- What is generated of some tables, in order, with the kind that it belongs to. -/
def generated (c : Config) (ts : List Table) : List (ArtifactKind × Output) :=
  (ts.flatMap fun t => c.enabledKinds.map fun k => (k, c.builtinFile t k))
    ++ c.enabledKinds.map fun k => (k, c.builtinCombined ts k)

/-- The outputs that belong to a kind. -/
def ofKind (k : ArtifactKind) (os : List (ArtifactKind × Output)) : List Output :=
  (os.filter (·.1 = k)).map (·.2)

variable {c : Config} {k : ArtifactKind} {w w' : Workspace} {ts : List Table}

theorem outputs_builtinArtifacts :
    c.outputs (c.builtinArtifacts ts) = (c.generated ts).map (·.2) := by
  unfold outputs generated
  rw [List.map_append, List.map_flatMap, List.map_map]
  simp only [List.map_map]
  rfl

/-! ## One kind -/

theorem filter_enabledKinds (hk : k ∈ c.enabledKinds) : c.enabledKinds.filter (· = k) = [k] := by
  have henabled : c.isEnabled k = true := (List.mem_filter.mp hk).2
  have hall : ArtifactKind.all.filter (· = k) = [k] := by
    cases k <;> decide
  unfold enabledKinds
  rw [List.filter_filter, ← hall]
  apply List.filter_congr
  intro k' _
  by_cases hkind : k' = k
  · simp [hkind, henabled]
  · simp [hkind]

/-- What is generated for one kind is what belongs to it of all that is generated. -/
theorem generated_only (hk : k ∈ c.enabledKinds) (ts : List Table) :
    (c.only k).generated ts = (c.generated ts).filter (·.1 = k) := by
  have hkinds (f : ArtifactKind → Output) :
      (c.enabledKinds.map fun k' => (k', f k')).filter (·.1 = k) = [(k, f k)] := by
    rw [List.filter_map]
    exact congrArg (List.map _) (filter_enabledKinds hk)
  unfold generated
  rw [List.filter_append, List.filter_flatMap, enabledKinds_only]
  simp only [hkinds]
  rfl

/-- A table that is not refused is not refused for one of the kinds. -/
theorem collidingKind?_only (hk : k ∈ c.enabledKinds) {table : Text}
    (h : c.collidingKind? table = none) : (c.only k).collidingKind? table = none := by
  unfold collidingKind? at h ⊢
  rw [List.find?_eq_none] at h ⊢
  intro k' hk'
  rw [enabledKinds_only, List.mem_singleton] at hk'
  rw [hk']
  exact h k hk

/-! ## Runs -/

section Running

variable [Template.Engine] [GoFormatter] {sql : Text} {report : Report}

/-- A run that succeeds has written all that is generated. -/
theorem generated_of_run (hbuiltin : c.templateDir = none)
    (h : exec (c.run sql : Procedure Workspace Report) w = (.ok report, w')) :
    let os := (c.generated (c.selected (Schema.read sql))).map (·.2)
    exec (c.run sql : Procedure Journal Report) ⟨w, []⟩
        = (.ok report, ⟨w', (c.performed os).map Output.record⟩)
      ∧ report = ⟨(c.selected (Schema.read sql)).map (·.name), os.map (·.path)⟩
      ∧ WroteAll (c.performed os) w w' := by
  intro os
  obtain ⟨hfailure, files, combined, hgenerates, -⟩ := generates_of_run h
  have hproduces : c.Produces w (c.selected (Schema.read sql)) (c.builtinArtifacts _) :=
    produces_builtin hbuiltin hgenerates.clear
  have hyields := yields_of_run h hproduces
  have hattempt := delivers_run hbuiltin hfailure hproduces.generates
    hproduces.mapM_combinedOutput w
  have hos : c.outputs (c.builtinArtifacts (c.selected (Schema.read sql))) = os :=
    outputs_builtinArtifacts
  refine ⟨?_, ?_, ?_⟩
  · rw [← hos]
    exact hyields.run
  · rw [← hos]
    exact hyields.report
  · rw [← hos]
    rw [h] at hattempt
    cases hattempt with
    | complete hwrote => exact hwrote

/-- A run for one kind succeeds if the run for all does. -/
theorem exists_run_only (hbuiltin : c.templateDir = none) (hk : k ∈ c.enabledKinds)
    (hstart : w.entryAt w.home = some .directory)
    (h : exec (c.run sql : Procedure Workspace Report) w = (.ok report, w')) :
    ∃ report' w'', exec ((c.only k).run sql : Procedure Workspace Report) w
      = (.ok report', w'') := by
  obtain ⟨hfailure, files, combined, hgenerates, -⟩ := generates_of_run h
  obtain ⟨-, -, hwrote⟩ := generated_of_run hbuiltin h
  have hclear : ∀ t ∈ (c.only k).selected (Schema.read sql),
      (c.only k).collidingKind? t.name = none :=
    fun t ht => collidingKind?_only hk (hgenerates.clear t ht)
  obtain ⟨w'', hrun⟩ := exists_run_of_beneath (c := c.only k) hbuiltin hfailure hclear
    (hwrote.others.beneath hstart) fun hdry p hp => by
      have hproduces : (c.only k).Produces w (c.selected (Schema.read sql))
          ((c.only k).builtinArtifacts _) := produces_builtin hbuiltin hclear
      change p ∈ ((c.only k).report (c.selected (Schema.read sql))).files at hp
      rw [hproduces.report_eq, outputs_builtinArtifacts, generated_only hk] at hp
      obtain ⟨o, ho, rfl⟩ := List.mem_map.mp hp
      apply hwrote.holds
      have hdry' : c.dryRun = false := hdry
      rw [performed_of_not_dryRun hdry']
      exact List.map_subset _ List.filter_sublist.subset ho
  exact ⟨_, w'', hrun⟩

/-- With built-in templates, kinds of artifacts do not depend on each other, whatever tree of
files a run starts in.  If a run succeeds, so does the run for one of its kinds, with the same
tables, and it writes those files of the whole run that belong to this kind, in their order, and
nothing else.  Both leave a tree.  The command for that kind asks for this run, and accepts the
configuration if the command for all kinds does. -/
theorem run_only {w : Tree} (hbuiltin : c.templateDir = none) (hk : k ∈ c.enabledKinds)
    (h : exec (c.run sql : Procedure Workspace Report) w = (.ok report, w')) :
    let os := c.generated (c.selected (Schema.read sql))
    exec (c.run sql : Procedure Journal Report) ⟨w, []⟩
        = (.ok report, ⟨w', (c.performed (os.map (·.2))).map Output.record⟩)
      ∧ report.files = os.map (·.2.path) ∧ w'.Sound
      ∧ (∃ report' w'', exec ((c.only k).run sql : Procedure Journal Report) ⟨w, []⟩
          = (.ok report', ⟨w'', (c.performed (ofKind k os)).map Output.record⟩)
        ∧ report'.tables = report.tables ∧ report'.files = (ofKind k os).map (·.path)
        ∧ w''.Sound)
      ∧ (∀ (o : CommandLine.Options) (loaded : Config), o.command = some (.only k) →
        ({ o with command := some .generate } : CommandLine.Options).override loaded = c →
          o.override loaded = c.only k)
      ∧ ((c.only k).validate : Procedure Workspace Unit) = c.validate := by
  intro os
  obtain ⟨hrun, hreport, hwrote⟩ := generated_of_run hbuiltin h
  obtain ⟨report', w'', h'⟩ := exists_run_only hbuiltin hk w.sound.home h
  obtain ⟨hrun', hreport', hwrote'⟩ := generated_of_run (c := c.only k) hbuiltin h'
  rw [(generated_only hk _ : (c.only k).generated ((c.only k).selected _) = _)] at hrun' hreport'
  refine ⟨hrun, ?_, w.sound.wroteAll hwrote,
    ⟨report', w'', hrun', ?_, ?_, w.sound.wroteAll hwrote'⟩, ?_, ?_⟩
  · rw [hreport, List.map_map]
    rfl
  · rw [hreport, hreport']
    rfl
  · rw [hreport']
    rfl
  · rintro o loaded hcommand rfl
    unfold CommandLine.Options.override
    rw [hcommand]
  · have hsome : c.enabledKinds.isEmpty = false := by
      rw [List.isEmpty_eq_false_iff]
      exact List.ne_nil_of_mem hk
    unfold validate
    rw [enabledKinds_only, hsome]
    rfl

end Running

end Config

/-! ## Messages without services -/

namespace Sample

/-- Messages and services in one directory. -/
def bothKinds : Config :=
  { directories := .const (some "./o".toList),
    enabled := .ofFunction fun k => k = .proto || k = .service }

/-- All files of a run on the first table. -/
def bothWritten : Workspace where
  entries := (["o".toList], .directory) :: [
    "a.proto".toList, "a.go".toList, "storehouse_service.proto".toList, "services.go".toList].map
      fun name => (["o".toList, name], .file ByteArray.empty)

theorem run_bothKinds : ∃ w, exec (bothKinds.run firstTable : Procedure Workspace Report)
    Tree.empty
    = (.ok (bothKinds.report (bothKinds.selected (Schema.read firstTable))), w) := by
  have hbeneath : (Tree.empty : Workspace).Beneath bothWritten := .of_empty rfl rfl rfl
  have hfailure : (Schema.read firstTable).failure = none := by rw [read_firstTable]
  refine Config.exists_run_of_beneath rfl hfailure ?_ hbeneath fun _ => ?_
  · rw [read_firstTable]
    decide
  · rw [read_firstTable]
    decide

end Sample

theorem Config.run_only_messages :
    Sample.bothKinds.isEnabled .proto = true ∧ Sample.bothKinds.isEnabled .service = true
    ∧ ∃ report w', exec ((Sample.bothKinds.only .proto).run Sample.firstTable
        : Procedure Journal Report) ⟨Tree.empty, []⟩
      = (.ok report, ⟨w', (Sample.bothKinds.performed (ofKind .proto (Sample.bothKinds.generated
        (Sample.bothKinds.selected (Schema.read Sample.firstTable))))).map Output.record⟩)
    ∧ report.tables = ["a".toList] := by
  obtain ⟨w, hboth⟩ := Sample.run_bothKinds
  obtain ⟨-, -, -, ⟨report, w', hrun, htables, -⟩, -⟩ :=
    run_only (c := Sample.bothKinds) (k := .proto) rfl (by decide) hboth
  refine ⟨rfl, rfl, report, w', hrun, htables.trans ?_⟩
  rw [Sample.read_firstTable]
  decide

end TableScaffold
