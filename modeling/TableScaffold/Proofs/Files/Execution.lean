import TableScaffold.Files.Workspace
import TableScaffold.Generation.Error

set_option autoImplicit false

/-!
# Running actions

An action that may fail and changes a state is run on a state; `exec_bind_eq_ok`
takes a run of two actions apart, and `exec_bind_eq_error` one that fails.  A run
over a list that fails has succeeded on the elements before one of them, and fails
there (`exec_foldlM_eq_error`, `exec_mapM_eq_error`, `exec_forM_eq_error`).
-/

namespace TableScaffold

/-- An action on a state, which may fail. -/
abbrev Procedure (σ α : Type) := ExceptT ScaffoldError (StateM σ) α

namespace Procedure

variable {σ α β : Type}

/-- Runs an action from a state. -/
def exec (x : Procedure σ α) (s : σ) : Except ScaffoldError α × σ := x.run.run s

@[simp] theorem exec_pure (a : α) (s : σ) : exec (pure a) s = (.ok a, s) := rfl

@[simp] theorem exec_throw (e : ScaffoldError) (s : σ) :
    exec (throw e : Procedure σ α) s = (.error e, s) := rfl

@[simp] theorem exec_lift (x : StateM σ α) (s : σ) :
    exec (liftM x : Procedure σ α) s = (.ok (x.run s).1, (x.run s).2) := rfl

theorem exec_bind (x : Procedure σ α) (f : α → Procedure σ β) (s : σ) :
    exec (x >>= f) s = match exec x s with
      | (.ok a, s) => exec (f a) s
      | (.error e, s) => (.error e, s) := by
  unfold exec
  rw [ExceptT.run_bind, StateT.run_bind]
  rcases x.run.run s with ⟨_ | a, s'⟩ <;> rfl

theorem exec_bind_eq_ok {x : Procedure σ α} {f : α → Procedure σ β} {s s' : σ} {b : β} :
    exec (x >>= f) s = (.ok b, s')
      ↔ ∃ a s₁, exec x s = (.ok a, s₁) ∧ exec (f a) s₁ = (.ok b, s') := by
  rw [exec_bind]
  rcases exec x s with ⟨_ | a, s₁⟩ <;> simp [and_assoc]

theorem exec_bind_eq_error {x : Procedure σ α} {f : α → Procedure σ β} {s s' : σ}
    {e : ScaffoldError} : exec (x >>= f) s = (.error e, s')
      ↔ exec x s = (.error e, s')
        ∨ ∃ a s₁, exec x s = (.ok a, s₁) ∧ exec (f a) s₁ = (.error e, s') := by
  rw [exec_bind]
  rcases exec x s with ⟨_ | a, s₁⟩ <;> simp [and_assoc]

/-! ## Failures within a list -/

section Lists

variable {s s' : σ} {e : ScaffoldError}

theorem exec_foldlM_eq_error {f : β → α → Procedure σ β} {as : List α} {b : β}
    (h : exec (as.foldlM f b) s = (.error e, s')) :
    ∃ before a behind b₁ s₁, as = before ++ a :: behind
      ∧ exec (before.foldlM f b) s = (.ok b₁, s₁) ∧ exec (f b₁ a) s₁ = (.error e, s') := by
  induction as generalizing b s with
  | nil => cases h
  | cons a as ih =>
    rw [List.foldlM_cons] at h
    rcases exec_bind_eq_error.mp h with hfirst | ⟨b', s'', hfirst, hrest⟩
    · exact ⟨[], a, as, b, s, rfl, rfl, hfirst⟩
    · obtain ⟨before, a', behind, b₁, s₁, rfl, hbefore, hlast⟩ := ih hrest
      refine ⟨a :: before, a', behind, b₁, s₁, rfl, ?_, hlast⟩
      rw [List.foldlM_cons]
      exact exec_bind_eq_ok.mpr ⟨b', s'', hfirst, hbefore⟩

theorem exec_mapM_eq_error {f : α → Procedure σ β} {as : List α}
    (h : exec (as.mapM f) s = (.error e, s')) :
    ∃ before a behind bs s₁, as = before ++ a :: behind
      ∧ exec (before.mapM f) s = (.ok bs, s₁) ∧ exec (f a) s₁ = (.error e, s') := by
  induction as generalizing s with
  | nil => cases h
  | cons a as ih =>
    rw [List.mapM_cons] at h
    rcases exec_bind_eq_error.mp h with hfirst | ⟨b, s'', hfirst, hrest⟩
    · exact ⟨[], a, as, [], s, rfl, rfl, hfirst⟩
    rcases exec_bind_eq_error.mp hrest with hrest | ⟨bs, s₁, -, hpure⟩
    · obtain ⟨before, a', behind, bs, s₁, rfl, hbefore, hlast⟩ := ih hrest
      refine ⟨a :: before, a', behind, b :: bs, s₁, rfl, ?_, hlast⟩
      rw [List.mapM_cons]
      exact exec_bind_eq_ok.mpr ⟨b, s'', hfirst, exec_bind_eq_ok.mpr ⟨bs, s₁, hbefore, rfl⟩⟩
    · cases hpure

theorem exec_forM_eq_error {f : α → Procedure σ PUnit} {as : List α}
    (h : exec (as.forM f) s = (.error e, s')) :
    ∃ before a behind s₁, as = before ++ a :: behind
      ∧ exec (before.forM f) s = (.ok (), s₁) ∧ exec (f a) s₁ = (.error e, s') := by
  induction as generalizing s with
  | nil => cases h
  | cons a as ih =>
    rcases exec_bind_eq_error.mp h with hfirst | ⟨_, s'', hfirst, hrest⟩
    · exact ⟨[], a, as, s, rfl, rfl, hfirst⟩
    · obtain ⟨before, a', behind, s₁, rfl, hbefore, hlast⟩ := ih hrest
      exact ⟨a :: before, a', behind, s₁, rfl, exec_bind_eq_ok.mpr ⟨_, s'', hfirst, hbefore⟩, hlast⟩

end Lists

end Procedure

end TableScaffold
