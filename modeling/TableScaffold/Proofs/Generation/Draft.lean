import TableScaffold.Proofs.Generation.WriteFile

set_option autoImplicit false

/-!
# Writing where nothing goes wrong

A draft is a record of writes with no files behind it: everything can be made and
written there, and nothing can be read.  A program that reads nothing ends in a draft
as it would end in a workspace that takes all its files, and the draft says which files
these are.

In a workspace such a program writes the same files one after the other, up to the
first one that cannot be written (`Attempt`).  A program that writes nothing foretells
it if it ends as the draft does (`Foretells`); that is so for the parts of a program if
it is so for its steps (`Foretells.bind`, `foretells_foldlM`).
-/

namespace TableScaffold

open Workspace

/-- The files that were written, in order. -/
structure Draft where
  writes : List (Path × ByteArray) := []

namespace Draft

/-- A draft with some more outputs. -/
def extend (d : Draft) (os : List Output) : Draft := ⟨d.writes ++ os.map Output.record⟩

@[simp] theorem extend_nil (d : Draft) : d.extend [] = d := by
  simp [extend]

@[simp] theorem extend_append (d : Draft) (os os' : List Output) :
    d.extend (os ++ os') = (d.extend os).extend os' := by
  simp [extend]

instance : FileAccess (StateM Draft) where
  readBytes _ := pure (.error .notFound)
  writeBytes p bytes := fun d => (.ok (), ⟨d.writes ++ [(p, bytes)]⟩)
  makeDirectory _ := pure (.ok ())
  isDirectory _ := pure true
  isPresent _ := pure true
  workingDirectory := pure ['/']

instance : FormatAccess (StateM Draft) where
  formatFile _ := pure ()

theorem makeDirectories_eq (p : Path) :
    (FileAccess.makeDirectories p : StateM Draft (Except FileFault Unit)) = pure (.ok ()) := by
  unfold FileAccess.makeDirectories FileAccess.makeNested
  split <;> rfl

end Draft

/-! ## Attempts -/

variable [GoFormatter]

/-- How the attempt ends to write some outputs and then to end with a result: all of
them are written, or one of them cannot be, behind those before it. -/
inductive Attempt {α : Type} (os : List Output) (result : Except ScaffoldError α)
    (w : Workspace) : Except ScaffoldError α × Workspace → Prop where
  | complete {w' : Workspace} : WroteAll os w w' → Attempt os result w (result, w')
  | cut {before behind : List Output} {o : Output} {w₁ : Workspace} {e : ScaffoldError} :
    os = before ++ o :: behind → WroteAll before w w₁ → Config.WriteFails w₁ o e →
    Attempt os result w (.error e, w₁.makeAbove o.path)

namespace Attempt

variable {α : Type} {os : List Output} {result : Except ScaffoldError α} {w : Workspace}
  {ending : Except ScaffoldError α × Workspace}

/-- Where nothing is to be written, nothing is in the way of the result. -/
theorem eq_of_nil (h : Attempt [] result w ending) : ending = (result, w) := by
  cases h with
  | complete hwrote =>
    cases hwrote
    rfl
  | cut hos _ _ => cases List.append_ne_nil_of_right_ne_nil _ (List.cons_ne_nil _ _) hos.symm

theorem result_of_ok (h : Attempt os result w ending) {a : α} (ha : ending.1 = .ok a) :
    result = .ok a := by
  cases h with
  | complete _ => exact ha
  | cut _ _ _ => cases ha

/-- An attempt that fails otherwise than with a file ends with its result. -/
theorem result_of_error (h : Attempt os result w ending) {e : ScaffoldError}
    (he : ending.1 = .error e) (hother : ∀ p fault, e ≠ .write p fault) : result = .error e := by
  cases h with
  | complete _ => exact he
  | cut _ _ hfails =>
    cases he
    obtain ⟨p, fault, rfl⟩ := hfails.eq_write
    exact absurd rfl (hother p fault)

/-- An attempt to end with a fault does, or fails with a file before. -/
theorem error_or_cut {e : ScaffoldError} (h : Attempt os (.error e) w ending) :
    ending.1 = .error e ∨ ∃ before o behind w₁ p fault, os = before ++ o :: behind
      ∧ WroteAll before w w₁ ∧ Config.WriteFails w₁ o (.write p fault)
      ∧ ending = (.error (.write p fault), w₁.makeAbove o.path) := by
  cases h with
  | complete _ => exact .inl rfl
  | cut hos hwrote hfails =>
    obtain ⟨p, fault, rfl⟩ := hfails.eq_write
    exact .inr ⟨_, _, _, _, p, fault, hos, hwrote, hfails, rfl⟩

/-- An attempt that ends with `a` goes on with the action that `a` leads to. -/
theorem bind {β : Type} {x : Procedure Workspace α} {f : α → Procedure Workspace β} {a : α}
    {os' : List Output} {result : Except ScaffoldError β}
    (hx : Attempt os (.ok a) w (Procedure.exec x w))
    (hf : ∀ w₁, Attempt os' result w₁ (Procedure.exec (f a) w₁)) :
    Attempt (os ++ os') result w (Procedure.exec (x >>= f) w) := by
  rw [Procedure.exec_bind]
  generalize Procedure.exec x w = ending at hx
  cases hx with
  | cut hos hwrote hfails =>
    exact .cut (by rw [hos, List.append_assoc, List.cons_append]) hwrote hfails
  | @complete w₁ hwrote =>
    -- the second action goes on from the workspace that the first has left
    have hy := hf w₁
    dsimp only
    generalize Procedure.exec (f a) w₁ = ending at hy
    cases hy with
    | complete hwrote' => exact .complete (hwrote.append hwrote')
    | cut hos hwrote' hfails =>
      exact .cut (by rw [hos, List.append_assoc]) (hwrote.append hwrote') hfails

end Attempt

/-- The attempt to write one file, unless nothing is to be written. -/
theorem Config.attempt_writeFile (c : Config) (p : Path) (t : Text) (w : Workspace) :
    Attempt (c.performed [c.output p t]) (.ok ()) w
      (Procedure.exec (c.writeFile p t : Procedure Workspace Unit) w) := by
  rw [mirrors_writeFile c p t ⟨w, []⟩]
  rcases hwrite : Procedure.exec (c.writeFile p t : Procedure Journal Unit) ⟨w, []⟩
    with ⟨e | _, j⟩
  · obtain ⟨hdry, hfails, rfl⟩ := writeFile_eq_error hwrite
    rw [performed_of_not_dryRun hdry]
    have hfirst : [c.output p t] = [] ++ c.output p t :: [] := rfl
    exact .cut hfirst (.nil w) hfails
  · exact .complete (logged_of_writeFile hwrite).workspace

namespace Procedure

variable {α β : Type} {formats : Path → Bool}

/-- An action `x` that writes nothing ends as `y` does, unless a file cannot be written;
what there is to write is what the draft of `y` says, and `formats` tells which of it is
formatted. -/
def Foretells (formats : Path → Bool) (x y : Procedure Workspace α) (draft : Procedure Draft α) :
    Prop :=
  ∀ d, ∃ result os, exec draft d = (result, d.extend os)
    ∧ (∀ o ∈ os, o.formatted = formats o.path)
    ∧ ∀ w, exec x w = (result, w) ∧ Attempt os result w (exec y w)

theorem foretells_of_exec {x y : Procedure Workspace α} {draft : Procedure Draft α}
    (result : Except ScaffoldError α) (hdraft : ∀ d, exec draft d = (result, d))
    (hx : ∀ w, exec x w = (result, w)) (hy : ∀ w, exec y w = (result, w)) :
    Foretells formats x y draft := by
  refine fun d => ⟨result, [], (hdraft d).trans (by rw [Draft.extend_nil]), nofun,
    fun w => ⟨hx w, ?_⟩⟩
  rw [hy w]
  exact .complete (.nil w)

theorem foretells_pure (a : α) : Foretells formats (pure a) (pure a) (pure a) :=
  foretells_of_exec (.ok a) (fun _ => rfl) (fun _ => rfl) (fun _ => rfl)

theorem foretells_throw (e : ScaffoldError) :
    Foretells formats (throw e : Procedure Workspace α) (throw e) (throw e) :=
  foretells_of_exec (.error e) (fun _ => rfl) (fun _ => rfl) (fun _ => rfl)

theorem Foretells.bind {x y : Procedure Workspace α} {draft : Procedure Draft α}
    {f g : α → Procedure Workspace β} {draft' : α → Procedure Draft β}
    (h : Foretells formats x y draft) (hf : ∀ a, Foretells formats (f a) (g a) (draft' a)) :
    Foretells formats (x >>= f) (y >>= g) (draft >>= draft') := by
  intro d
  obtain ⟨result, os, hd, hformats, hw⟩ := h d
  cases result with
  | error e =>
    refine ⟨.error e, os, by rw [exec_bind, hd], hformats, fun w => ?_⟩
    obtain ⟨hx, hy⟩ := hw w
    rw [exec_bind, exec_bind, hx]
    refine ⟨rfl, ?_⟩
    generalize exec y w = ending at hy
    cases hy with
    | complete hwrote => exact .complete hwrote
    | cut hos hwrote hfails => exact .cut hos hwrote hfails
  | ok a =>
    obtain ⟨result', os', hd', hformats', hw'⟩ := hf a (d.extend os)
    refine ⟨result', os ++ os', by rw [exec_bind, hd, Draft.extend_append]; exact hd',
      List.forall_mem_append.mpr ⟨hformats, hformats'⟩, fun w => ?_⟩
    obtain ⟨hx, hy⟩ := hw w
    rw [exec_bind, hx]
    exact ⟨(hw' w).1, hy.bind fun w₁ => (hw' w₁).2⟩

theorem foretells_mapM {f g : α → Procedure Workspace β} {draft : α → Procedure Draft β}
    (h : ∀ a, Foretells formats (f a) (g a) (draft a)) (as : List α) :
    Foretells formats (as.mapM f) (as.mapM g) (as.mapM draft) := by
  induction as with
  | nil => exact foretells_pure []
  | cons a as ih =>
    rw [List.mapM_cons, List.mapM_cons, List.mapM_cons]
    exact (h a).bind fun b => ih.bind fun bs => foretells_pure (b :: bs)

theorem foretells_foldlM {f g : β → α → Procedure Workspace β}
    {draft : β → α → Procedure Draft β} (h : ∀ b a, Foretells formats (f b a) (g b a) (draft b a))
    (as : List α) (b : β) :
    Foretells formats (as.foldlM f b) (as.foldlM g b) (as.foldlM draft b) := by
  induction as generalizing b with
  | nil => exact foretells_pure b
  | cons a as ih =>
    rw [List.foldlM_cons, List.foldlM_cons, List.foldlM_cons]
    exact (h b a).bind fun b' => ih b'

theorem foretells_forM {f g : α → Procedure Workspace PUnit} {draft : α → Procedure Draft PUnit}
    (h : ∀ a, Foretells formats (f a) (g a) (draft a)) (as : List α) :
    Foretells formats (as.forM f) (as.forM g) (as.forM draft) := by
  induction as with
  | nil => exact foretells_pure ()
  | cons a as ih => exact (h a).bind fun _ => ih

end Procedure

end TableScaffold
