import TableScaffold.Proofs.Generation.Draft
import TableScaffold.Proofs.Generation.Failure

set_option autoImplicit false

/-!
# What a run is bound to deliver

An action delivers some outputs if it ends with a given result in every workspace that takes
them, and writes nothing else (`Delivers`).  With built-in templates a step of a run delivers
what can be rendered, wherever the run is, since rendering does not depend on the workspace;
so a run delivers the files of all its tables and their combined files
(`Config.delivers_run`).  This is the converse of what a successful run says about its
files.
-/

namespace TableScaffold

open Workspace

variable [GoFormatter]

namespace Procedure

variable {α β : Type} {x : Procedure Workspace α} {os os' : List Output} {a : α} {b : β}

/-- An action that in all workspaces attempts to write some outputs and to end with `a`. -/
def Delivers (x : Procedure Workspace α) (os : List Output) (a : α) : Prop :=
  ∀ w, Attempt os (.ok a) w (exec x w)

theorem delivers_pure (a : α) : Delivers (pure a) [] a := by
  intro w
  exact .complete (.nil w)

theorem Delivers.bind {f : α → Procedure Workspace β} (h : Delivers x os a)
    (hf : Delivers (f a) os' b) : Delivers (x >>= f) (os ++ os') b := by
  intro w
  exact (h w).bind hf

theorem Delivers.bind_pure (h : Delivers x os a) (g : α → β) :
    Delivers (x >>= fun a => pure (g a)) os (g a) := by
  have hend := h.bind (f := fun a => pure (g a)) (delivers_pure (g a))
  rwa [List.append_nil] at hend

end Procedure

open Procedure

/-! ## Built-in templates -/

theorem TemplateSource.delivers_render_builtin [Template.Engine] {w : Workspace} {name text : Text}
    {slots : Slots} (h : builtin.renderIn w name slots = .ok text) :
    Delivers (builtin.render name slots) [] text := by
  intro w'
  rw [(exec_render builtin name slots ⟨w', []⟩).2, renderIn_builtin w' w, h]
  exact .complete (.nil w')

namespace Config

variable {c : Config} {w : Workspace} {t : Table} {ts : List Table} {os : List Output}

theorem delivers_writeFile (c : Config) (p : Path) (t : Text) :
    Delivers (c.writeFile p t) (c.performed [c.output p t]) () :=
  c.attempt_writeFile p t

theorem delivers_checkCollision {table : Text} (h : c.collidingKind? table = none) :
    Delivers (c.checkCollision table) [] () := by
  unfold checkCollision
  rw [h]
  exact delivers_pure ()

section Builtin

variable [Template.Engine] (hbuiltin : c.templateDir = none)
include hbuiltin

omit [Template.Engine] [GoFormatter] in
theorem templateSource_of_builtin : c.templateSource = .builtin := by
  unfold templateSource
  rw [hbuiltin]

theorem delivers_emitKind {b : Combined} {o : Output} {s : Text}
    (hfile : c.tableOutput w t b.kind = .ok o) (hsnippet : c.snippet w b.kind t = .ok s) :
    Delivers (c.emitKind t b) (c.performed [o]) (b.push s) := by
  obtain ⟨text, hrender, rfl⟩ := tableOutput_eq_ok.mp hfile
  unfold snippet at hsnippet
  rw [templateSource_of_builtin hbuiltin] at hrender hsnippet
  unfold emitKind
  rw [templateSource_of_builtin hbuiltin]
  rw [← List.append_nil (c.performed _)]
  refine (TemplateSource.delivers_render_builtin hrender).bind ?_
  refine (delivers_writeFile c _ text).bind ?_
  exact (TemplateSource.delivers_render_builtin hsnippet).bind_pure b.push

/-- For one table, every kind delivers its file and collects its snippet. -/
theorem delivers_emitKinds {bs : List Combined} (hbs : ∀ b ∈ bs, Collected c w ts b)
    (hfiles : (bs.map (·.kind)).mapM (c.tableOutput w t) = .ok os)
    (hsnippets : ∀ b ∈ bs, ∃ s, c.snippet w b.kind t = .ok s) :
    ∃ bs', Delivers (bs.mapM (c.emitKind t)) (c.performed os) bs'
      ∧ bs'.map (·.kind) = bs.map (·.kind) ∧ ∀ b ∈ bs', Collected c w (ts ++ [t]) b := by
  induction bs generalizing os with
  | nil =>
    obtain rfl : [] = os := Except.ok.inj hfiles
    refine ⟨[], ?_, rfl, nofun⟩
    rw [performed_nil]
    exact delivers_pure []
  | cons b bs ih =>
    rw [List.forall_mem_cons] at hbs hsnippets
    rw [List.map_cons] at hfiles
    obtain ⟨o, os', ho, hos', rfl⟩ := mapM_cons_eq_ok.mp hfiles
    obtain ⟨s, hs⟩ := hsnippets.1
    obtain ⟨bs', hrest, hkinds, hcollected⟩ := ih hbs.2 hos' hsnippets.2
    refine ⟨b.push s :: bs', ?_, ?_, ?_⟩
    · rw [List.mapM_cons, ← List.singleton_append, performed_append]
      exact (delivers_emitKind hbuiltin ho hs).bind (hrest.bind_pure (b.push s :: ·))
    · rw [List.map_cons, List.map_cons, hkinds, Combined.kind_push]
    · refine List.forall_mem_cons.mpr ⟨?_, hcollected⟩
      exact mapM_concat_eq_ok hbs.1 hs

/-- Table by table, the files of the enabled kinds are delivered. -/
theorem delivers_emitTables {done : List Table} {bs : List Combined}
    {files : List (List Output)} (hkinds : bs.map (·.kind) = c.enabledKinds)
    (hbs : ∀ b ∈ bs, Collected c w done b)
    (hclear : ∀ t ∈ ts, c.collidingKind? t.name = none)
    (hfiles : ts.mapM (fun t => c.enabledKinds.mapM (c.tableOutput w t)) = .ok files)
    (hsnippets : ∀ t ∈ ts, ∀ k ∈ c.enabledKinds, ∃ s, c.snippet w k t = .ok s) :
    ∃ bs', Delivers (ts.foldlM c.emitTable bs) (c.performed files.flatten) bs'
      ∧ bs'.map (·.kind) = c.enabledKinds ∧ ∀ b ∈ bs', Collected c w (done ++ ts) b := by
  induction ts generalizing done bs files with
  | nil =>
    obtain rfl : [] = files := Except.ok.inj hfiles
    refine ⟨bs, ?_, hkinds, ?_⟩
    · rw [List.flatten_nil, performed_nil]
      exact delivers_pure bs
    · rwa [List.append_nil]
  | cons t ts ih =>
    rw [List.forall_mem_cons] at hclear hsnippets
    obtain ⟨os, files', hos, hfiles', rfl⟩ := mapM_cons_eq_ok.mp hfiles
    rw [← hkinds] at hos
    have hsnippet : ∀ b ∈ bs, ∃ s, c.snippet w b.kind t = .ok s := by
      intro b hb
      apply hsnippets.1
      rw [← hkinds]
      exact List.mem_map_of_mem hb
    obtain ⟨bs₁, hfirst, hkinds₁, hbs₁⟩ := delivers_emitKinds hbuiltin hbs hos hsnippet
    obtain ⟨bs', hrest, hkinds', hbs'⟩ :=
      ih (hkinds₁.trans hkinds) hbs₁ hclear.2 hfiles' hsnippets.2
    refine ⟨bs', ?_, hkinds', ?_⟩
    · rw [List.foldlM_cons, List.flatten_cons, performed_append]
      exact ((delivers_checkCollision hclear.1).bind hfirst).bind hrest
    · rwa [List.append_assoc, List.singleton_append] at hbs'

omit hbuiltin in
/-- The combined files are delivered in the order of the kinds. -/
theorem delivers_emitCombined {bs : List Combined} (hbs : ∀ b ∈ bs, Collected c w ts b)
    (hos : (bs.map (·.kind)).mapM (c.combinedOutput w ts) = .ok os) :
    Delivers (c.emitCombined bs) (c.performed os) () := by
  unfold emitCombined
  induction bs generalizing os with
  | nil =>
    obtain rfl : [] = os := Except.ok.inj hos
    rw [performed_nil]
    exact delivers_pure ()
  | cons b bs ih =>
    rw [List.forall_mem_cons] at hbs
    rw [List.map_cons] at hos
    obtain ⟨o, os', ho, hos', rfl⟩ := mapM_cons_eq_ok.mp hos
    obtain rfl := Except.ok.inj (hbs.1.combinedOutput.symm.trans ho)
    rw [← List.singleton_append (l := os'), performed_append]
    exact (delivers_writeFile c _ b.contents).bind (ih hbs.2 hos')

/-- A run delivers the files of its tables and their combined files, if the schema has no
fault and no table is refused or fails to be rendered. -/
theorem delivers_run {sql : Text} {combined : List Output}
    (hfailure : (Schema.read sql).failure = none)
    (hgenerates : c.Generates w (c.selected (Schema.read sql)) os)
    (hcombined : c.enabledKinds.mapM (c.combinedOutput w (c.selected (Schema.read sql)))
      = .ok combined) :
    Delivers (c.run sql) (c.performed (os ++ combined))
      (c.report (c.selected (Schema.read sql))) := by
  obtain ⟨files, hfiles, rfl⟩ := hgenerates.files
  obtain ⟨bs, htables, hkinds, hbs⟩ := delivers_emitTables hbuiltin (kinds_empty c)
    (collected_empty c w) hgenerates.clear hfiles hgenerates.snippets
  rw [← hkinds] at hcombined
  have hend := (delivers_emitCombined hbs hcombined).bind_pure
    fun _ => c.report (c.selected (Schema.read sql))
  rw [run_eq_emit]
  unfold emit
  dsimp only
  rw [hfailure, performed_append]
  exact htables.bind hend

end Builtin

end Config

end TableScaffold
