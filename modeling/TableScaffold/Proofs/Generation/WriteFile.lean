import TableScaffold.Generation.Run
import TableScaffold.Proofs.Files.Writing

set_option autoImplicit false

/-!
# Writing the file of a run

Unless nothing is to be written, a file that a run writes, and has formatted if the
configuration says so (`Config.output`), is recorded behind those before it
(`logged_of_writeFile`).  A file that cannot be written is not recorded,
and leaves nothing behind but the directories above it (`writeFile_eq_error`).
-/

namespace TableScaffold

namespace Config

open Procedure

/-- The output that a text makes: a Go file is formatted if the configuration says so. -/
def output (c : Config) (path : Path) (text : Text) : Output := ⟨path, text, c.formats path⟩

@[simp] theorem path_output (c : Config) (path : Path) (text : Text) :
    (c.output path text).path = path := rfl

@[simp] theorem text_output (c : Config) (path : Path) (text : Text) :
    (c.output path text).text = text := rfl

/-! ## Dry runs -/

/-- The outputs that are written, of those that are generated. -/
def performed (c : Config) (os : List Output) : List Output := if c.dryRun then [] else os

section Performed

variable {c : Config} {os : List Output}

theorem performed_of_dryRun (h : c.dryRun = true) : c.performed os = [] := if_pos h

theorem performed_of_not_dryRun (h : c.dryRun = false) : c.performed os = os :=
  if_neg (Bool.eq_false_iff.mp h)

@[simp] theorem performed_nil (c : Config) : c.performed [] = [] := ite_self []

theorem logged_performed_nil [GoFormatter] (c : Config) (j : Journal) :
    Journal.Logged (c.performed []) j j := by
  rw [performed_nil]
  exact .nil j

theorem performed_append (c : Config) (os os' : List Output) :
    c.performed (os ++ os') = c.performed os ++ c.performed os' := by
  unfold performed
  split <;> rfl

theorem mem_of_mem_performed {o : Output} (h : o ∈ c.performed os) : o ∈ os := by
  unfold performed at h
  split at h
  · cases h
  · exact h

end Performed

/-! ## The three steps of a write -/

section Steps

variable {m : Type → Type} [Monad m] [FileAccess m] [FormatAccess m]

/-- A file operation on a path, whose fault ends the run. -/
def orFail (p : Path) (x : m (Except FileFault Unit)) : ExceptT ScaffoldError m Unit := do
  match ← (x : ExceptT ScaffoldError m (Except FileFault Unit)) with
  | .error fault => throw (.write p fault)
  | .ok _ => pure ()

/-- Makes the directories above a path. -/
def ensureAbove (p : Path) : ExceptT ScaffoldError m Unit :=
  match p.parent? with
  | some dir => orFail dir (FileAccess.makeDirectories dir)
  | none => pure ()

/-- Gives a file to the formatter if the configuration says so. -/
def formatWritten (c : Config) (p : Path) : ExceptT ScaffoldError m Unit := do
  if c.formats p then FormatAccess.formatFile (m := m) p

theorem writeFile_of_dryRun {c : Config} (hdry : c.dryRun = true) (p : Path) (t : Text) :
    c.writeFile p t = (pure () : ExceptT ScaffoldError m Unit) := by
  unfold writeFile
  rw [if_pos hdry]

/-- Without a dry run, a file is written once the directories above it are there, and is
formatted after that. -/
theorem writeFile_eq [LawfulMonad m] {c : Config} (hdry : c.dryRun = false) (p : Path) (t : Text) :
    c.writeFile p t
      = (do
        ensureAbove p
        orFail p (FileAccess.writeText p t)
        c.formatWritten p : ExceptT ScaffoldError m Unit) := by
  unfold writeFile ensureAbove orFail formatWritten
  rw [hdry, if_neg Bool.false_ne_true]
  cases p.parent? with
  | none =>
    rw [pure_bind, bind_assoc]
    refine bind_congr fun result => ?_
    cases result with
    | error e => simp only [ExceptT.bind_throw]
    | ok _ =>
      rw [pure_bind]
  | some dir =>
    rw [bind_assoc]
    refine bind_congr fun result => ?_
    cases result with
    | error e => simp only [ExceptT.bind_throw]
    | ok _ =>
      rw [pure_bind, bind_assoc]
      refine bind_congr fun result => ?_
      cases result with
      | error e => simp only [ExceptT.bind_throw]
      | ok _ =>
        rw [pure_bind]

end Steps

/-! ## Successful writes -/

variable {σ : Type}

theorem exec_orFail_eq_ok {p : Path} {x : StateM σ (Except FileFault Unit)} {s s' : σ} :
    exec (orFail p x) s = (.ok (), s') ↔ x.run s = (.ok (), s') := by
  unfold orFail
  rw [exec_bind, exec_lift]
  rcases x.run s with ⟨e | _, s₁⟩
  · exact ⟨nofun, nofun⟩
  · constructor <;> (intro h; cases h; rfl)

theorem exec_ensureAbove_eq_ok {p : Path} {j j' : Journal}
    (h : exec (ensureAbove p : Procedure Journal Unit) j = (.ok (), j')) :
    j' = { j with workspace := j.workspace.makeAbove p } := by
  unfold ensureAbove at h
  unfold Workspace.makeAbove
  cases hp : p.parent? with
  | none =>
    rw [hp] at h
    cases h
    rfl
  | some dir =>
    rw [hp] at h
    have h := exec_orFail_eq_ok.mp h
    rw [Journal.makeDirectories_eq] at h
    exact (congrArg Prod.snd h).symm

theorem exec_formatWritten [GoFormatter] (c : Config) (p : Path) (j : Journal) :
    exec (c.formatWritten p : Procedure Journal Unit) j
      = (.ok (), { j with
        workspace := if c.formats p then j.workspace.formatFile p else j.workspace }) := by
  unfold formatWritten
  split <;> rfl

/-- A file that is written is recorded behind the others. -/
theorem logged_of_writeFile [GoFormatter] {c : Config} {p : Path} {t : Text} {j j' : Journal}
    (h : exec (c.writeFile p t : Procedure Journal Unit) j = (.ok (), j')) :
    Journal.Logged (c.performed [c.output p t]) j j' := by
  cases hdry : c.dryRun with
  | true =>
    rw [writeFile_of_dryRun hdry] at h
    rw [performed_of_dryRun hdry]
    cases h
    exact .nil j
  | false =>
    rw [writeFile_eq hdry, exec_bind_eq_ok] at h
    rw [performed_of_not_dryRun hdry]
    obtain ⟨_, j₁, habove, h⟩ := h
    obtain ⟨_, j₂, hwrite, hformat⟩ := exec_bind_eq_ok.mp h
    have hj₁ := exec_ensureAbove_eq_ok habove
    have hwrite := exec_orFail_eq_ok.mp hwrite
    change Journal.write p _ j₁ = _ at hwrite
    cases hbytes : j₁.workspace.writeBytes p (FileAccess.bytesOfText t) with
    | error e =>
      rw [Journal.write_of_error hbytes] at hwrite
      cases hwrite
    | ok w =>
      rw [Journal.write_of_ok hbytes] at hwrite
      cases hwrite
      rw [exec_formatWritten] at hformat
      cases hformat
      subst hj₁
      obtain ⟨place, hwrote⟩ := Workspace.exists_wrote (o := c.output p t) hbytes
      rw [Workspace.write_of_ok (o := c.output p t) hbytes] at hwrote
      exact ⟨rfl, .cons hwrote (.nil _)⟩

/-! ## Failing writes -/

/-- What keeps a file from being written: a directory above it cannot be made, or the
file itself cannot be put there. -/
inductive WriteFails (w : Workspace) (o : Output) : ScaffoldError → Prop where
  | directory {dir : Path} {fault : FileFault} : o.path.parent? = some dir →
    ((FileAccess.makeDirectories dir : StateM Workspace (Except FileFault Unit)).run w).1
      = .error fault → WriteFails w o (.write dir fault)
  | file {fault : FileFault} :
    (w.makeAbove o.path).writeBytes o.path (FileAccess.bytesOfText o.text) = .error fault →
    WriteFails w o (.write o.path fault)

theorem WriteFails.eq_write {w : Workspace} {o : Output} {e : ScaffoldError}
    (h : WriteFails w o e) : ∃ p fault, e = .write p fault := by
  cases h <;> exact ⟨_, _, rfl⟩

theorem exec_orFail_eq_error {p : Path} {x : StateM σ (Except FileFault Unit)} {s s' : σ}
    {e : ScaffoldError} : exec (orFail p x) s = (.error e, s')
      ↔ ∃ fault, x.run s = (.error fault, s') ∧ e = .write p fault := by
  unfold orFail
  rw [exec_bind, exec_lift]
  rcases x.run s with ⟨fault | _, s₁⟩
  · constructor
    · intro h
      cases h
      exact ⟨fault, rfl, rfl⟩
    · rintro ⟨_, h, rfl⟩
      cases h
      rfl
  · refine ⟨nofun, ?_⟩
    rintro ⟨_, h, -⟩
    cases h

theorem exec_ensureAbove_eq_error {p : Path} {j j' : Journal} {e : ScaffoldError}
    (h : exec (ensureAbove p : Procedure Journal Unit) j = (.error e, j')) :
    j' = { j with workspace := j.workspace.makeAbove p }
      ∧ ∃ dir fault, p.parent? = some dir ∧ e = .write dir fault
        ∧ ((FileAccess.makeDirectories dir : StateM Workspace (Except FileFault Unit)).run
          j.workspace).1 = .error fault := by
  unfold ensureAbove at h
  unfold Workspace.makeAbove
  cases hp : p.parent? with
  | none =>
    rw [hp] at h
    cases h
  | some dir =>
    rw [hp] at h
    obtain ⟨fault, hfault, he⟩ := exec_orFail_eq_error.mp h
    rw [Journal.makeDirectories_eq] at hfault
    obtain ⟨hresult, hstate⟩ := Prod.mk.inj hfault
    exact ⟨hstate.symm, dir, fault, rfl, he, hresult⟩

/-- A file that is not written leaves the directories above it, and no record. -/
theorem writeFile_eq_error [GoFormatter] {c : Config} {p : Path} {t : Text} {j j' : Journal}
    {e : ScaffoldError}
    (h : exec (c.writeFile p t : Procedure Journal Unit) j = (.error e, j')) :
    c.dryRun = false ∧ WriteFails j.workspace (c.output p t) e
      ∧ j' = { j with workspace := j.workspace.makeAbove p } := by
  cases hdry : c.dryRun with
  | true =>
    rw [writeFile_of_dryRun hdry] at h
    cases h
  | false =>
    rw [writeFile_eq hdry] at h
    refine ⟨rfl, ?_⟩
    rcases exec_bind_eq_error.mp h with habove | ⟨_, j₁, habove, h⟩
    · obtain ⟨hj', dir, fault, hdir, rfl, hfault⟩ := exec_ensureAbove_eq_error habove
      exact ⟨.directory hdir hfault, hj'⟩
    have hj₁ := exec_ensureAbove_eq_ok habove
    rcases exec_bind_eq_error.mp h with hwrite | ⟨_, j₂, -, hformat⟩
    · obtain ⟨fault, hfault, rfl⟩ := exec_orFail_eq_error.mp hwrite
      change Journal.write p _ j₁ = _ at hfault
      cases hbytes : j₁.workspace.writeBytes p (FileAccess.bytesOfText t) with
      | ok w =>
        rw [Journal.write_of_ok hbytes] at hfault
        cases hfault
      | error fault' =>
        rw [Journal.write_of_error hbytes] at hfault
        cases hfault
        subst hj₁
        exact ⟨.file hbytes, rfl⟩
    · rw [exec_formatWritten] at hformat
      cases hformat

/-! ## Recorded and unrecorded runs -/

theorem mirrors_orFail {p : Path} {x : StateM Journal (Except FileFault Unit)}
    {y : StateM Workspace (Except FileFault Unit)}
    (h : Mirrors (liftM x : Procedure Journal _) (liftM y)) : Mirrors (orFail p x) (orFail p y) := by
  refine h.bind fun result => ?_
  cases result with
  | error fault => exact mirrors_throw _
  | ok _ => exact mirrors_pure ()

theorem mirrors_writeFile [GoFormatter] (c : Config) (p : Path) (t : Text) :
    Mirrors (c.writeFile p t) (c.writeFile p t) := by
  cases hdry : c.dryRun with
  | true =>
    rw [writeFile_of_dryRun hdry, writeFile_of_dryRun hdry]
    exact mirrors_pure ()
  | false =>
    rw [writeFile_eq hdry, writeFile_eq hdry]
    refine Mirrors.bind ?_ fun _ => (mirrors_orFail (mirrors_writeText p t)).bind fun _ => ?_
    · unfold ensureAbove
      split
      · refine mirrors_orFail ?_
        rw [Journal.makeDirectories_eq]
        exact mirrors_onWorkspace _
      · exact mirrors_pure ()
    · unfold formatWritten
      split
      · exact mirrors_onWorkspace _
      · exact mirrors_pure ()

end Config

end TableScaffold
