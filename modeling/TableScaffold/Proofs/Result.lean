import TableScaffold.Text.Basic

set_option autoImplicit false

/-!
# Steps that may fail

Steps one after the other succeed if each of them does (`bind_eq_ok`), and so do
the steps over a list (`mapM_cons_eq_ok`).
-/

namespace TableScaffold

variable {ε α β γ : Type}

theorem bind_eq_ok {x : Except ε α} {f : α → Except ε β} {b : β} :
    x >>= f = .ok b ↔ ∃ a, x = .ok a ∧ f a = .ok b := by
  cases x with
  | error e =>
    refine ⟨nofun, ?_⟩
    rintro ⟨_, h, -⟩
    cases h
  | ok a =>
    refine ⟨fun h => ⟨a, rfl, h⟩, ?_⟩
    rintro ⟨_, ha, h⟩
    rw [← Except.ok.inj ha] at h
    exact h

theorem map_eq_ok {x : Except ε α} {g : α → β} {b : β} :
    x.map g = .ok b ↔ ∃ a, x = .ok a ∧ g a = b := by
  cases x with
  | error e =>
    refine ⟨nofun, ?_⟩
    rintro ⟨_, h, -⟩
    cases h
  | ok a =>
    constructor
    · intro h
      exact ⟨a, rfl, Except.ok.inj h⟩
    · rintro ⟨_, h, rfl⟩
      rw [Except.ok.inj h]
      rfl

theorem map_eq_error {x : Except ε α} {g : α → β} {e : ε} :
    g <$> x = .error e ↔ x = .error e := by
  cases x with
  | error e' => exact ⟨fun h => congrArg _ (Except.error.inj h), fun h => congrArg _ (Except.error.inj h)⟩
  | ok a => exact ⟨nofun, nofun⟩

theorem mapError_eq_ok {δ : Type} {x : Except ε α} {g : ε → δ} {a : α} :
    x.mapError g = .ok a ↔ x = .ok a := by
  cases x with
  | error e => exact ⟨nofun, nofun⟩
  | ok a => exact ⟨fun h => congrArg _ (Except.ok.inj h), fun h => congrArg _ (Except.ok.inj h)⟩

variable {f : α → Except ε β}

theorem mapM_cons_eq_ok {a : α} {as : List α} {bs : List β} : (a :: as).mapM f = .ok bs
    ↔ ∃ b bs', f a = .ok b ∧ as.mapM f = .ok bs' ∧ bs = b :: bs' := by
  rw [List.mapM_cons, bind_eq_ok]
  constructor
  · rintro ⟨b, hb, h⟩
    obtain ⟨bs', hbs', h⟩ := bind_eq_ok.mp h
    exact ⟨b, bs', hb, hbs', (Except.ok.inj h).symm⟩
  · rintro ⟨b, bs', hb, hbs', rfl⟩
    exact ⟨b, hb, bind_eq_ok.mpr ⟨bs', hbs', rfl⟩⟩

theorem mapM_append_eq_ok {as as' : List α} {bs bs' : List β} (has : as.mapM f = .ok bs)
    (has' : as'.mapM f = .ok bs') : (as ++ as').mapM f = .ok (bs ++ bs') := by
  rw [List.mapM_append, has, has']
  rfl

/-- One more step at the end gives one more result at the end. -/
theorem mapM_concat_eq_ok {a : α} {as : List α} {b : β} {bs : List β} (has : as.mapM f = .ok bs)
    (ha : f a = .ok b) : (as ++ [a]).mapM f = .ok (bs ++ [b]) :=
  mapM_append_eq_ok has (mapM_cons_eq_ok.mpr ⟨b, [], ha, rfl, rfl⟩)

/-- Steps with known results give the list of these. -/
theorem mapM_eq_ok_of_forall {g : α → β} {as : List α} (h : ∀ a ∈ as, f a = .ok (g a)) :
    as.mapM f = .ok (as.map g) := by
  induction as with
  | nil => rfl
  | cons a as ih =>
    rw [List.forall_mem_cons] at h
    exact mapM_cons_eq_ok.mpr ⟨g a, as.map g, h.1, ih h.2, rfl⟩

/-- Where all steps succeed, each of them does. -/
theorem exists_of_mapM_eq_ok {a : α} {as : List α} {bs : List β} (h : as.mapM f = .ok bs)
    (ha : a ∈ as) : ∃ b, f a = .ok b := by
  induction as generalizing bs with
  | nil => cases ha
  | cons a' as ih =>
    obtain ⟨b, bs', hb, hbs', -⟩ := mapM_cons_eq_ok.mp h
    cases ha with
    | head => exact ⟨b, hb⟩
    | tail _ ha => exact ih hbs' ha

/-- What holds of the result of every single step holds of all their results. -/
theorem forall_of_mapM_eq_ok {p : β → Prop} (hf : ∀ a b, f a = .ok b → p b)
    {as : List α} {bs : List β} (h : as.mapM f = .ok bs) : ∀ b ∈ bs, p b := by
  induction as generalizing bs with
  | nil =>
    cases h
    exact List.forall_mem_nil p
  | cons a as ih =>
    obtain ⟨b, bs', ha, has, rfl⟩ := mapM_cons_eq_ok.mp h
    exact List.forall_mem_cons.mpr ⟨hf a b ha, ih has⟩

/-- What every single step determines is determined for the list of them. -/
theorem map_of_mapM_eq_ok {g : β → γ} {g' : α → γ} (hf : ∀ a b, f a = .ok b → g b = g' a)
    {as : List α} {bs : List β} (h : as.mapM f = .ok bs) : bs.map g = as.map g' := by
  induction as generalizing bs with
  | nil =>
    cases h
    rfl
  | cons a as ih =>
    obtain ⟨b, bs', ha, has, rfl⟩ := mapM_cons_eq_ok.mp h
    rw [List.map_cons, List.map_cons, hf a b ha, ih has]

end TableScaffold
