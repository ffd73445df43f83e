import TableScaffold.Proofs.Files.Growth
import TableScaffold.Proofs.Files.Journal
import TableScaffold.Template.Source

set_option autoImplicit false

/-!
# Rendering during a run

Rendering reads the template anew each time.  The directory of the templates is
there as soon as one template has been read from it, and a file that no write has
touched is read as it was; so a template that renders later on renders from the
start, and to the same text (`renderIn_of_extends`).
-/

namespace TableScaffold.TemplateSource

open Procedure

variable {source : TemplateSource} {w w' : Workspace} {name text : Text} {slots : Slots}

/-! ## Loading -/

/-- The text of a template in a workspace. -/
def loadIn (source : TemplateSource) (w : Workspace) (name : Text) : Except ScaffoldError Text :=
  (exec (source.load name : Procedure Workspace Text) w).1

/-- The text that a template makes of the slots in a workspace. -/
def renderIn [Template.Engine] (source : TemplateSource) (w : Workspace) (name : Text)
    (slots : Slots) : Except ScaffoldError Text :=
  (exec (source.render name slots : Procedure Workspace Text) w).1

/-- Loading changes nothing, and a journal loads what the workspace in it does. -/
theorem exec_load (source : TemplateSource) (name : Text) (j : Journal) :
    exec (source.load name : Procedure Journal Text) j = (source.loadIn j.workspace name, j)
      ∧ exec (source.load name : Procedure Workspace Text) j.workspace
        = (source.loadIn j.workspace name, j.workspace) := by
  unfold loadIn
  cases source with
  | builtin =>
    simp only [load]
    cases Template.Builtin.find? name <;> exact ⟨rfl, rfl⟩
  | directory dir =>
    simp only [load, exec_bind, exec_lift]
    have hread : (FileAccess.readText (dir.join name) : StateM Journal _).run j
        = (((FileAccess.readText (dir.join name) : StateM Workspace _).run j.workspace).1, j) := rfl
    rw [hread]
    cases ((FileAccess.readText (dir.join name) : StateM Workspace _).run j.workspace).1 <;>
      exact ⟨rfl, rfl⟩

theorem exec_render [Template.Engine] (source : TemplateSource) (name : Text) (slots : Slots)
    (j : Journal) :
    exec (source.render name slots : Procedure Journal Text) j
        = (source.renderIn j.workspace name slots, j)
      ∧ exec (source.render name slots : Procedure Workspace Text) j.workspace
        = (source.renderIn j.workspace name slots, j.workspace) := by
  obtain ⟨hjournal, hworkspace⟩ := exec_load source name j
  unfold renderIn render
  rw [exec_bind, exec_bind, hjournal, hworkspace]
  cases source.loadIn j.workspace name with
  | error e => exact ⟨rfl, rfl⟩
  | ok template =>
    dsimp only
    cases Template.render name template slots <;> exact ⟨rfl, rfl⟩

theorem mirrors_render [Template.Engine] (source : TemplateSource) (name : Text)
    (slots : Slots) : Mirrors (source.render name slots) (source.render name slots) := fun j => by
  rw [(exec_render source name slots j).1, (exec_render source name slots j).2]

/-- A template renders if it can be loaded, and its text renders. -/
theorem renderIn_eq_ok [Template.Engine] : source.renderIn w name slots = .ok text
    ↔ ∃ template, source.loadIn w name = .ok template
      ∧ Template.render name template slots = .ok text := by
  have hload := (exec_load source name ⟨w, []⟩).2
  unfold renderIn render
  rw [exec_bind, hload]
  cases source.loadIn w name with
  | error e =>
    refine ⟨nofun, ?_⟩
    rintro ⟨_, h, -⟩
    cases h
  | ok template =>
    dsimp only
    cases hrender : Template.render name template slots with
    | error e =>
      refine ⟨nofun, ?_⟩
      rintro ⟨_, h, h'⟩
      rw [← Except.ok.inj h, hrender] at h'
      cases h'
    | ok t =>
      constructor
      · intro h
        exact ⟨template, rfl, hrender.trans (congrArg _ (Except.ok.inj h))⟩
      · rintro ⟨_, h, h'⟩
        rw [← Except.ok.inj h, hrender] at h'
        exact congrArg _ (Except.ok.inj h')

/-! ## Directories of templates -/

theorem loadIn_directory (dir : Path) (w : Workspace) (name : Text) :
    (directory dir).loadIn w name
      = match (w.readBytes (dir.join name)).bind FileAccess.textOfBytes with
        | .ok text => .ok text
        | .error fault => .error (.unreadableTemplate (dir.join name) fault) := by
  have hread : (FileAccess.readText (dir.join name) : StateM Workspace _).run w
      = ((w.readBytes (dir.join name)).bind FileAccess.textOfBytes, w) := rfl
  simp only [loadIn, load, exec_bind, exec_lift, hread]
  cases (w.readBytes (dir.join name)).bind FileAccess.textOfBytes <;> rfl

/-- A template is read from its file. -/
theorem loadIn_directory_eq_ok {dir : Path} : (directory dir).loadIn w name = .ok text
    ↔ ∃ place bytes, w.resolve (dir.join name) = .ok place
      ∧ w.entryAt place = some (.file bytes) ∧ FileAccess.textOfBytes bytes = .ok text := by
  rw [loadIn_directory]
  constructor
  · intro h
    cases hbytes : w.readBytes (dir.join name) with
    | error e =>
      rw [hbytes] at h
      cases h
    | ok bytes =>
      obtain ⟨place, hplace, hfile⟩ := Workspace.readBytes_eq_ok.mp hbytes
      refine ⟨place, bytes, hplace, hfile, ?_⟩
      rw [hbytes, Except.bind] at h
      split at h
      · next htext => rw [htext, Except.ok.inj h]
      · cases h
  · rintro ⟨place, bytes, hplace, hfile, htext⟩
    rw [Workspace.readBytes_eq_ok.mpr ⟨place, hplace, hfile⟩, Except.bind, htext]

/-- Built-in templates are the same in all workspaces. -/
theorem loadIn_builtin (w w' : Workspace) (name : Text) :
    builtin.loadIn w name = builtin.loadIn w' name := by
  simp only [loadIn, load]
  cases Template.Builtin.find? name <;> rfl

/-- Built-in templates render in the same way in all workspaces. -/
theorem renderIn_builtin [Template.Engine] (w w' : Workspace) (name : Text) (slots : Slots) :
    builtin.renderIn w name slots = builtin.renderIn w' name slots := by
  unfold renderIn render
  rw [exec_bind, exec_bind, (exec_load builtin name ⟨w, []⟩).2, (exec_load builtin name ⟨w', []⟩).2]
  dsimp only
  rw [loadIn_builtin w w']
  cases builtin.loadIn w' name with
  | error e => rfl
  | ok template =>
    dsimp only
    cases Template.render name template slots <;> rfl

/-- The names of a source can be looked up. -/
def Found (source : TemplateSource) (w : Workspace) : Prop :=
  match source with
  | builtin => True
  | directory dir => ∃ d, w.resolveInto dir = .ok d ∧ w.entryAt d = some .directory

theorem found_of_loadIn (hname : Path.IsName name) (h : source.loadIn w name = .ok text) :
    source.Found w := by
  cases source with
  | builtin => trivial
  | directory dir =>
    obtain ⟨_, _, hplace, -⟩ := loadIn_directory_eq_ok.mp h
    obtain ⟨-, -, d, hd, hdir, -⟩ := (Workspace.resolve_join_eq_ok hname).mp hplace
    exact ⟨d, hd, hdir⟩

/-- What is loaded later on was there from the start. -/
theorem loadIn_of_extends {touched : Place → Prop} (hfound : source.Found w)
    (hext : Workspace.Extends touched w w') (hname : Path.IsName name)
    (huntouched : ∀ above, ¬ touched (above ++ [name])) (h : source.loadIn w' name = .ok text) :
    source.loadIn w name = .ok text := by
  cases source with
  | builtin => rwa [loadIn_builtin w w']
  | directory dir =>
    obtain ⟨place, bytes, hplace, hfile, htext⟩ := loadIn_directory_eq_ok.mp h
    obtain ⟨hfits, hshort, d', hd', -, rfl⟩ := (Workspace.resolve_join_eq_ok hname).mp hplace
    obtain ⟨d, hd, hdir⟩ := hfound
    have heq : d' = d := Except.ok.inj (hd'.symm.trans (hext.resolveInto hd))
    subst heq
    refine loadIn_directory_eq_ok.mpr ⟨d' ++ [name], bytes, ?_, ?_, htext⟩
    · exact (Workspace.resolve_join_eq_ok hname).mpr ⟨hfits, hshort, d', hd, hdir, rfl⟩
    · exact (hext.entryAt_file (huntouched d')).mp hfile

/-- What is rendered later on would have been rendered from the start. -/
theorem renderIn_of_extends [Template.Engine] {touched : Place → Prop} (hfound : source.Found w)
    (hext : Workspace.Extends touched w w') (hname : Path.IsName name)
    (huntouched : ∀ above, ¬ touched (above ++ [name]))
    (h : source.renderIn w' name slots = .ok text) : source.renderIn w name slots = .ok text := by
  obtain ⟨template, hload, hrender⟩ := renderIn_eq_ok.mp h
  exact renderIn_eq_ok.mpr ⟨template, loadIn_of_extends hfound hext hname huntouched hload, hrender⟩

theorem found_of_renderIn [Template.Engine] (hname : Path.IsName name)
    (h : source.renderIn w name slots = .ok text) : source.Found w := by
  obtain ⟨_, hload, -⟩ := renderIn_eq_ok.mp h
  exact found_of_loadIn hname hload

end TableScaffold.TemplateSource
