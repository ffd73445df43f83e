import TableScaffold.Proofs.Files.Execution

set_option autoImplicit false

/-!
# A workspace that records its writes

A journal is a workspace with the record of all files that the program wrote, in
order.  A program runs on a journal as it runs on the workspace in it
(`Procedure.Mirrors`), so the record tells what the program writes and changes
nothing.
-/

namespace TableScaffold

/-- A workspace with the files that were written, in order. -/
structure Journal where
  workspace : Workspace
  writes : List (Path × ByteArray) := []

namespace Journal

variable {α β : Type}

/-- What an action on a workspace does to a journal, if it writes no file. -/
def onWorkspace (x : StateM Workspace α) : StateM Journal α := fun j =>
  ((x.run j.workspace).1, { j with workspace := (x.run j.workspace).2 })

/-- Writes a file and records it. -/
def write (p : Path) (bytes : ByteArray) : StateM Journal (Except FileFault Unit) := fun j =>
  match j.workspace.writeBytes p bytes with
  | .ok w => (.ok (), ⟨w, j.writes ++ [(p, bytes)]⟩)
  | .error e => (.error e, j)

instance : FileAccess (StateM Journal) where
  readBytes p := onWorkspace (FileAccess.readBytes p)
  writeBytes := write
  makeDirectory p := onWorkspace (FileAccess.makeDirectory p)
  isDirectory p := onWorkspace (FileAccess.isDirectory p)
  isPresent p := onWorkspace (FileAccess.isPresent p)
  workingDirectory := onWorkspace FileAccess.workingDirectory

/-- What the formatter does to a file is not recorded. -/
instance [GoFormatter] : FormatAccess (StateM Journal) where
  formatFile p := onWorkspace (FormatAccess.formatFile p)

theorem onWorkspace_bind (x : StateM Workspace α) (f : α → StateM Workspace β) :
    onWorkspace (x >>= f) = onWorkspace x >>= fun a => onWorkspace (f a) := rfl

theorem ensureDirectory_eq (p : Path) :
    (FileAccess.ensureDirectory p : StateM Journal (Except FileFault Unit))
      = onWorkspace (FileAccess.ensureDirectory p) := by
  unfold FileAccess.ensureDirectory
  rw [onWorkspace_bind]
  congr 1
  funext result
  cases result with
  | ok _ => rfl
  | error e =>
    dsimp only
    rw [onWorkspace_bind]
    congr 1
    funext there
    cases there <;> rfl

/-- Making directories writes no file. -/
theorem makeDirectories_eq (p : Path) :
    (FileAccess.makeDirectories p : StateM Journal (Except FileFault Unit))
      = onWorkspace (FileAccess.makeDirectories p) := by
  unfold FileAccess.makeDirectories
  generalize p :: p.above = ps
  induction ps with
  | nil => rfl
  | cons p above ih =>
    unfold FileAccess.makeNested
    split
    · rfl
    · rw [ensureDirectory_eq, onWorkspace_bind]
      congr 1
      funext result
      cases result with
      | ok _ => rfl
      | error e =>
        cases e with
        | notFound =>
          dsimp only
          rw [ih, onWorkspace_bind]
          congr 1
          funext made
          cases made with
          | ok _ => rfl
          | error _ => rfl
        | _ => rfl

theorem write_of_ok {p : Path} {bytes : ByteArray} {j : Journal} {w : Workspace}
    (h : j.workspace.writeBytes p bytes = .ok w) :
    write p bytes j = (.ok (), ⟨w, j.writes ++ [(p, bytes)]⟩) := by
  rw [write, h]

theorem write_of_error {p : Path} {bytes : ByteArray} {j : Journal} {e : FileFault}
    (h : j.workspace.writeBytes p bytes = .error e) : write p bytes j = (.error e, j) := by
  rw [write, h]

/-- Recording a file does not change how it is written. -/
theorem act_writeBytes (p : Path) (bytes : ByteArray) (j : Journal) :
    Workspace.act (·.writeBytes p bytes) j.workspace
      = ((write p bytes j).1, (write p bytes j).2.workspace) := by
  unfold Workspace.act
  cases h : j.workspace.writeBytes p bytes with
  | ok w => simp only [h, write_of_ok h]
  | error e => simp only [h, write_of_error h]

end Journal

/-! ## Programs -/

namespace Procedure

variable {α β : Type}

/-- An action does to a journal what another one does to the workspace in it. -/
def Mirrors (x : Procedure Journal α) (y : Procedure Workspace α) : Prop :=
  ∀ j, exec y j.workspace = ((exec x j).1, (exec x j).2.workspace)

theorem mirrors_pure (a : α) : Mirrors (pure a) (pure a) := fun _ => rfl

theorem mirrors_throw (e : ScaffoldError) : Mirrors (throw e : Procedure Journal α) (throw e) :=
  fun _ => rfl

theorem mirrors_onWorkspace (x : StateM Workspace α) :
    Mirrors (liftM (Journal.onWorkspace x)) (liftM x) := fun _ => rfl

theorem mirrors_writeText (p : Path) (t : Text) :
    Mirrors (liftM (FileAccess.writeText p t : StateM Journal (Except FileFault Unit)))
      (liftM (FileAccess.writeText p t : StateM Workspace (Except FileFault Unit))) := fun j =>
  congrArg (fun r => (Except.ok r.1, r.2))
    (Journal.act_writeBytes p (FileAccess.bytesOfText t) j)

theorem Mirrors.bind {x : Procedure Journal α} {y : Procedure Workspace α} {f : α → Procedure Journal β}
    {g : α → Procedure Workspace β} (h : Mirrors x y) (hf : ∀ a, Mirrors (f a) (g a)) :
    Mirrors (x >>= f) (y >>= g) := by
  intro j
  rw [exec_bind, exec_bind, h j]
  rcases exec x j with ⟨_ | a, j'⟩
  · rfl
  · exact hf a j'

theorem mirrors_mapM {f : α → Procedure Journal β} {g : α → Procedure Workspace β}
    (h : ∀ a, Mirrors (f a) (g a)) (as : List α) : Mirrors (as.mapM f) (as.mapM g) := by
  induction as with
  | nil => exact mirrors_pure []
  | cons a as ih =>
    rw [List.mapM_cons, List.mapM_cons]
    exact (h a).bind fun b => ih.bind fun bs => mirrors_pure (b :: bs)

theorem mirrors_foldlM {f : β → α → Procedure Journal β} {g : β → α → Procedure Workspace β}
    (h : ∀ b a, Mirrors (f b a) (g b a)) (as : List α) (b : β) :
    Mirrors (as.foldlM f b) (as.foldlM g b) := by
  induction as generalizing b with
  | nil => exact mirrors_pure b
  | cons a as ih =>
    rw [List.foldlM_cons, List.foldlM_cons]
    exact (h b a).bind fun b' => ih b'

theorem mirrors_forM {f : α → Procedure Journal PUnit} {g : α → Procedure Workspace PUnit}
    (h : ∀ a, Mirrors (f a) (g a)) (as : List α) : Mirrors (as.forM f) (as.forM g) := by
  induction as with
  | nil => exact mirrors_pure ()
  | cons a as ih =>
    exact (h a).bind fun _ => ih

end Procedure

end TableScaffold
