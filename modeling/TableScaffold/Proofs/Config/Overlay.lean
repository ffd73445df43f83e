import TableScaffold.Proofs.Config.Values

set_option autoImplicit false

/-!
# Sources over each other

A source has values under keys, and where one is laid over another, a value that is neither a list
nor a map takes the place of the one below.  So a field that is plain in the end has the last value
under its key of the last source that has one (`Settings.plain_two_sources`).
-/

namespace TableScaffold

/-! ## Keys -/

namespace SettingPath

theorem eq_nil_of_steps? {fuel : Nat} {t : Text} (h : steps? fuel t = some []) : t = [] := by
  cases fuel with
  | zero => cases h
  | succ fuel =>
    cases t with
    | nil => rfl
    | cons c r =>
      unfold steps? at h
      split at h
      · simp [Option.bind_eq_some_iff] at h
      split at h
      · simp [Option.bind_eq_some_iff] at h
      · cases h

/-- A key that takes no steps is a name as it stands. -/
theorem eq_root_of_ofKey {key root : Text} (h : ofKey key = ⟨root, []⟩) : key = root := by
  unfold ofKey at h
  cases hspelling : ofSpelling? key with
  | none =>
    rw [hspelling] at h
    exact congrArg SettingPath.root h
  | some path =>
    rw [hspelling] at h
    obtain rfl : path = ⟨root, []⟩ := h
    unfold ofSpelling? name? at hspelling
    by_cases hname : (key.takeWhile isNameCharacter).isEmpty = true
    · simp [hname] at hspelling
    · simp only [hname, Bool.false_eq_true, if_false, Option.pure_def, Option.bind_eq_bind,
        Option.bind_some, Option.bind_eq_some_iff, Option.some.injEq, SettingPath.mk.injEq]
        at hspelling
      obtain ⟨steps, hsteps, hroot, rfl⟩ := hspelling
      rw [← List.takeWhile_append_dropWhile (p := isNameCharacter) (l := key),
        eq_nil_of_steps? hsteps, hroot, List.append_nil]

end SettingPath

namespace ConfigField

/-- The key of a field is a name. -/
theorem ofKey_key (f : ConfigField) : SettingPath.ofKey f.key = ⟨f.key, []⟩ := by
  have hall : ∀ f ∈ all, SettingPath.ofKey f.key = ⟨f.key, []⟩ := by decide
  exact hall f (mem_all f)

end ConfigField

/-! ## Sources over each other -/

namespace Settings

variable {key : Text} {below source : Settings} {e : Text × Setting} {v : Option SettingScalar}

theorem lookup_put (key other : Text) (s : Setting) (settings : Settings) :
    (put key s settings).lookup other = if other = key then some s else settings.lookup other := by
  induction settings with
  | nil =>
    by_cases h : other = key
    · simp [put, h]
    · simp [put, List.lookup_cons, h, beq_eq_false_iff_ne.mpr h]
  | cons old rest ih =>
    obtain ⟨k, s'⟩ := old
    by_cases hk : k = key
    · subst hk
      by_cases h : other = k
      · simp [put, h]
      · simp [put, List.lookup_cons, h, beq_eq_false_iff_ne.mpr h]
    · by_cases h : other = k
      · subst h
        simp [put, hk]
      · simp [put, List.lookup_cons, hk, beq_eq_false_iff_ne.mpr h, ih]

/-- The value of an entry under a key, unless it is a list or a map. -/
def scalarUnder (key : Text) (e : Text × Setting) : Option SettingScalar :=
  match e.2 with
  | .scalar _ v => if e.1 = key then some v else none
  | _ => none

/-- The last value under a key that is neither a list nor a map. -/
def last? (source : Settings) (key : Text) : Option SettingScalar :=
  (source.filterMap (scalarUnder key)).getLast?

theorem scalarUnder_of_ne {e : Text × Setting} (h : e.1 ≠ key) : scalarUnder key e = none := by
  unfold scalarUnder
  split
  · exact if_neg h
  · rfl

theorem last?_cons (e : Text × Setting) (source : Settings) (key : Text) :
    last? (e :: source) key = (last? source key).or (scalarUnder key e) := by
  unfold last?
  cases hscalar : scalarUnder key e with
  | none => rw [List.filterMap_cons_none hscalar, Option.or_none]
  | some v =>
    rw [List.filterMap_cons_some hscalar, List.getLast?_cons]
    cases (source.filterMap (scalarUnder key)).getLast? <;> rfl

/-- A value that is plain over an old one stands in its place, or is an empty map and leaves
it. -/
theorem plain_overlay {old : Option Setting} {s : Setting} (h : Plain (some (overlay old s)) v) :
    (∃ origin u, s = .scalar origin u ∧ v = some u)
      ∨ (∀ origin u, s ≠ .scalar origin u) ∧ Plain old v := by
  unfold overlay at h
  split at h
  · refine .inr ⟨nofun, ?_⟩
    cases old with
    | none => cases h
    | some old => exact h
  · cases h
  · cases h with
    | scalar origin u => exact .inl ⟨origin, u, rfl, rfl⟩

/-- Where steps lead further in, there is a map or a list. -/
theorem not_plain_setWithin {old : Option Setting} {s : Setting} {step : SettingStep}
    {steps : List SettingStep} : ¬ Plain (some (setWithin s old (step :: steps))) v := by
  intro h
  cases step with
  | name name =>
    rw [setWithin] at h
    cases h
  | item =>
    rw [setWithin] at h
    cases h

/-- What is plain once a value has been put where a key leads is that value, or it was plain
before. -/
theorem plain_assign (hkey : SettingPath.ofKey key = ⟨key, []⟩)
    (h : Plain ((below.assign (.ofKey e.1) e.2).lookup key) v) :
    (∃ u, scalarUnder key e = some u ∧ v = some u)
      ∨ scalarUnder key e = none ∧ Plain (below.lookup key) v := by
  obtain ⟨name, s⟩ := e
  unfold assign at h
  rw [lookup_put] at h
  rcases hpath : SettingPath.ofKey name with ⟨root, steps⟩
  rw [hpath] at h
  by_cases hroot : key = root
  · subst hroot
    rw [if_pos rfl] at h
    cases steps with
    | cons step steps => exact absurd h not_plain_setWithin
    | nil =>
      obtain rfl := SettingPath.eq_root_of_ofKey hpath
      rcases plain_overlay h with ⟨origin, u, rfl, hv⟩ | ⟨hs, hplain⟩
      · exact .inl ⟨u, if_pos rfl, hv⟩
      · refine .inr ⟨?_, hplain⟩
        unfold scalarUnder
        split
        · next origin u hscalar => exact absurd hscalar (hs origin u)
        · rfl
  · rw [if_neg hroot] at h
    refine .inr ⟨scalarUnder_of_ne ?_, h⟩
    rintro rfl
    rw [hkey] at hpath
    exact hroot (congrArg SettingPath.root hpath)

/-- What is plain over a source is the last value of that source, or it was plain below it. -/
theorem plain_addSource (hkey : SettingPath.ofKey key = ⟨key, []⟩)
    (h : Plain ((addSource below source).lookup key) v) :
    (∃ u, last? source key = some u ∧ v = some u)
      ∨ last? source key = none ∧ Plain (below.lookup key) v := by
  induction source generalizing below with
  | nil => exact .inr ⟨rfl, h⟩
  | cons e source ih =>
    rw [last?_cons]
    rcases ih h with ⟨u, hlast, hv⟩ | ⟨hlast, hplain⟩
    · exact .inl ⟨u, by rw [hlast, Option.some_or], hv⟩
    · rw [hlast, Option.none_or]
      exact plain_assign hkey hplain

/-- Of two sources, the upper one comes first. -/
theorem plain_two_sources {lower upper : Settings} (hkey : SettingPath.ofKey key = ⟨key, []⟩)
    (h : Plain ((addSource (addSource [] lower) upper).lookup key) v) :
    v = (last? upper key).or (last? lower key) := by
  rcases plain_addSource hkey h with ⟨u, hlast, hv⟩ | ⟨hlast, hplain⟩
  · rw [hlast, hv, Option.some_or]
  · rw [hlast, Option.none_or]
    rcases plain_addSource hkey hplain with ⟨u, hlast', hv⟩ | ⟨hlast', hnone⟩
    · rw [hlast', hv]
    · rw [hlast']
      cases hnone
      rfl

/-- What a file sets a field to, if it does: a value, or nothing. -/
def sets (file : Settings) (f : ConfigField) : Option (Option FieldValue) :=
  (file.last? f.key).map f.reading

end Settings

end TableScaffold
