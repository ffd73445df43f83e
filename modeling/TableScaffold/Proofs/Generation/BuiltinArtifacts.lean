import TableScaffold.Proofs.Artifact.Builtin
import TableScaffold.Proofs.Files.Beneath
import TableScaffold.Proofs.Generation.Artifacts

set_option autoImplicit false

/-!
# What is made with built-in templates

With built-in templates the artifacts of some tables can be given in full
(`Config.builtinArtifacts`), and nothing but a collision or a file that cannot be written is in
the way of them.  A file can be written where there is less than in a workspace that holds it
(`Attempt.complete_of_beneath`), so a run succeeds if there is a larger workspace that holds all
its files (`Config.exists_run_of_beneath`).
-/

namespace TableScaffold

open Procedure Workspace Template

/-! ## Attempts that cannot fail -/

section Attempts

variable [GoFormatter] {v w : Workspace} {os : List Output}

theorem Workspace.Beneath.of_wroteAll {v' : Workspace} (h : v.Beneath w)
    (hos : ∀ o ∈ os, w.Holds o.path) (hwrote : WroteAll os v v') : v'.Beneath w := by
  induction hwrote with
  | nil => exact h
  | cons ho _ ih =>
    obtain ⟨hfirst, hrest⟩ := List.forall_mem_cons.mp hos
    obtain ⟨place, hplace, hfile⟩ := holds_iff.mp hfirst
    apply ih ?_ hrest
    rw [ho.eq_write]
    exact h.write hplace hfile

omit [GoFormatter] in
theorem Workspace.Beneath.not_writeFails {o : Output} {e : ScaffoldError} (h : v.Beneath w)
    (ho : w.Holds o.path) : ¬ Config.WriteFails v o e := by
  obtain ⟨place, hplace, hfile⟩ := holds_iff.mp ho
  obtain ⟨hmakes, habove, hplace'⟩ := h.makeAbove hplace hfile
  intro hfails
  cases hfails with
  | directory hdir hfault =>
    rw [hmakes _ hdir] at hfault
    cases hfault
  | file hfault =>
    obtain ⟨v', hv'⟩ := habove.writeBytes hplace' hfile (FileAccess.bytesOfText o.text)
    cases hv'.symm.trans hfault

/-- All files of an attempt are written, if there is a larger workspace that holds them. -/
theorem Attempt.complete_of_beneath {α : Type} {result : Except ScaffoldError α}
    {ending : Except ScaffoldError α × Workspace} (h : Attempt os result v ending)
    (hbeneath : v.Beneath w) (hos : ∀ o ∈ os, w.Holds o.path) : ∃ v', ending = (result, v') := by
  cases h with
  | complete _ => exact ⟨_, rfl⟩
  | @cut before behind o v₁ e heq hwrote hfails =>
    rw [heq, List.forall_mem_append, List.forall_mem_cons] at hos
    exact absurd hfails ((hbeneath.of_wroteAll hos.1 hwrote).not_writeFails hos.2.1)

end Attempts

namespace Config

/-! ## Artifacts -/

/-- The file of a table that a built-in template makes. -/
def builtinFile (c : Config) (t : Table) (k : ArtifactKind) : Output :=
  c.output (c.artifactPath k t.name) (textOfLines (k.slotValue t c) (Builtin.fileLines k))

/-- The combined file of some tables that a built-in template makes. -/
def builtinCombined (c : Config) (ts : List Table) (k : ArtifactKind) : Output :=
  c.output (c.combinedPath k)
    (ts.flatMap fun t => textOfLines (k.slotValue t c) (Builtin.snippetLines k) ++ ['\n'])

/-- The artifacts that the built-in templates make of some tables. -/
def builtinArtifacts (c : Config) (ts : List Table) : Artifacts where
  tables := ts.map (·.name)
  files := ts.flatMap fun t => c.enabledKinds.map (c.builtinFile t)
  combined k := (c.builtinCombined ts k).text

section Running

variable [Template.Engine] {c : Config} {k : ArtifactKind} {w w' : Workspace} {ts : List Table}

theorem tableOutput_builtin (hbuiltin : c.templateDir = none) (t : Table) (k : ArtifactKind) :
    c.tableOutput w t k = .ok (c.builtinFile t k) := by
  refine tableOutput_eq_ok.mpr ⟨_, ?_, rfl⟩
  rw [templateSource_of_builtin hbuiltin]
  exact renderIn_fileTemplate k t c w

theorem snippet_builtin (hbuiltin : c.templateDir = none) (t : Table) (k : ArtifactKind) :
    c.snippet w k t = .ok (textOfLines (k.slotValue t c) (Builtin.snippetLines k)) := by
  unfold snippet
  rw [templateSource_of_builtin hbuiltin]
  exact renderIn_snippetTemplate k t c w

theorem combinedOutput_builtin (hbuiltin : c.templateDir = none) (k : ArtifactKind) :
    c.combinedOutput w ts k = .ok (c.builtinCombined ts k) := by
  refine combinedOutput_eq_ok.mpr ⟨_, mapM_eq_ok_of_forall fun t _ =>
    snippet_builtin hbuiltin t k, ?_⟩
  rw [List.flatMap_map]
  rfl

/-- With built-in templates everything is generated of tables that are not refused. -/
theorem produces_builtin (hbuiltin : c.templateDir = none)
    (hclear : ∀ t ∈ ts, c.collidingKind? t.name = none) :
    c.Produces w ts (c.builtinArtifacts ts) where
  tables := rfl
  generates := by
    refine ⟨hclear, ⟨ts.map fun t => c.enabledKinds.map (c.builtinFile t), ?_, ?_⟩, ?_⟩
    · apply mapM_eq_ok_of_forall
      intro t _
      apply mapM_eq_ok_of_forall
      intro k _
      exact tableOutput_builtin hbuiltin t k
    · exact List.flatMap_def
    · intro t _ k _
      exact ⟨_, snippet_builtin hbuiltin t k⟩
  combined k _ := combinedOutput_builtin hbuiltin k

/-! ## Runs -/

/-- A run succeeds if there is a larger workspace that holds all its files. -/
theorem exists_run_of_beneath [GoFormatter] {sql : Text} (hbuiltin : c.templateDir = none)
    (hfailure : (Schema.read sql).failure = none)
    (hclear : ∀ t ∈ c.selected (Schema.read sql), c.collidingKind? t.name = none)
    (hbeneath : w.Beneath w') (hfiles : c.dryRun = false →
      ∀ p ∈ (c.report (c.selected (Schema.read sql))).files, w'.Holds p) :
    ∃ w'', exec (c.run sql : Procedure Workspace Report) w
      = (.ok (c.report (c.selected (Schema.read sql))), w'') := by
  have hproduces : c.Produces w (c.selected (Schema.read sql)) (c.builtinArtifacts _) :=
    produces_builtin hbuiltin hclear
  apply (delivers_run hbuiltin hfailure hproduces.generates hproduces.mapM_combinedOutput
    w).complete_of_beneath hbeneath
  cases hdry : c.dryRun with
  | true =>
    rw [performed_of_dryRun hdry]
    nofun
  | false =>
    intro o ho
    rw [performed_of_not_dryRun hdry] at ho
    apply hfiles hdry
    rw [hproduces.report_eq]
    exact List.mem_map_of_mem ho

/-- A refused table ends a run. -/
theorem exec_emitTable_of_refused [GoFormatter] {t : Table} (hk : c.collidingKind? t.name = some k)
    (bs : List Combined) (w : Workspace) :
    exec (c.emitTable bs t : Procedure Workspace (List Combined)) w
      = (.error (.validation (.collision t.name k (c.artifactPath k t.name))), w) := by
  unfold emitTable checkCollision
  rw [hk]
  rfl

/-- Before a table that is refused, a run attempts to write the files of the tables in front of
it. -/
theorem attempt_run_of_refused [GoFormatter] {sql : Text} {before behind : List Table} {t : Table}
    (hbuiltin : c.templateDir = none)
    (hselected : c.selected (Schema.read sql) = before ++ t :: behind)
    (hclear : ∀ t ∈ before, c.collidingKind? t.name = none)
    (hk : c.collidingKind? t.name = some k) (w : Workspace) :
    Attempt (c.performed (before.flatMap fun t => c.enabledKinds.map (c.builtinFile t)))
      (.error (.validation (.collision t.name k (c.artifactPath k t.name)))) w
      (exec (c.run sql : Procedure Workspace Report) w) := by
  have hproduces : c.Produces w before (c.builtinArtifacts before) :=
    produces_builtin hbuiltin hclear
  obtain ⟨files, hfiles, heq⟩ := hproduces.generates.files
  obtain ⟨bs, hbefore, -, -⟩ := delivers_emitTables hbuiltin (kinds_empty c)
    (collected_empty c w) hclear hfiles hproduces.generates.snippets
  rw [← heq] at hbefore
  rw [run_eq_emit]
  unfold emit
  dsimp only
  rw [hselected, List.foldlM_append, bind_assoc, ← List.append_nil (c.performed _)]
  refine (hbefore w).bind fun w₁ => ?_
  rw [List.foldlM_cons, bind_assoc, exec_bind, exec_emitTable_of_refused hk]
  exact .complete (.nil w₁)

end Running

end Config

end TableScaffold
