import Mathlib.Data.List.DropRight
import TableScaffold.Proofs.Files.Place

set_option autoImplicit false

/-!
# Where a longer path leads

A path that is joined to a directory leads to its last name in the directory that the
segments in front of that name lead to (`join_eq_join_lead`).  That directory is the one
it was joined to exactly if those segments lead nowhere (`components_join_eq_self`), and a
path with the components of a directory and one name more leads one step below the place
of that directory (`exists_resolveInto`).
-/

namespace TableScaffold

namespace Path

/-! ## The last name of a path -/

/-- A path up to its last slash, with that slash. -/
def lead (p : Path) : Path := p.rdropWhile (· ≠ '/')

/-- A path behind its last slash. -/
def base (p : Path) : Text := p.rtakeWhile (· ≠ '/')

theorem lead_append_base (p : Path) : lead p ++ base p = p :=
  List.rdropWhile_append_rtakeWhile

theorem not_mem_base (p : Path) : '/' ∉ base p := by
  intro hmem
  have hne := List.mem_rtakeWhile_imp (p := fun c : Char => decide (c ≠ '/')) hmem
  simp at hne

/-- In front of the last name there is nothing, or a slash. -/
theorem lead_cases (p : Path) : lead p = [] ∨ (lead p).getLast? = some '/' := by
  by_cases hne : lead p = []
  · exact .inl hne
  · have hlast : ¬ decide ((lead p).getLast hne ≠ '/') = true :=
      List.rdropWhile_last_not _ _ hne
    refine .inr ?_
    rw [List.getLast?_eq_some_getLast hne]
    simpa using hlast

/-- What is written behind the last slash belongs to the last name. -/
theorem lead_append (p : Path) {t : Text} (h : '/' ∉ t) : lead (p ++ t) = lead p := by
  induction t using List.reverseRecOn with
  | nil => rw [List.append_nil]
  | append_singleton t c ih =>
    have hc : c ≠ '/' := by
      rintro rfl
      exact h (List.mem_append_right t List.mem_cons_self)
    rw [← List.append_assoc, lead, List.rdropWhile_concat_pos _ _ _ (by simpa using hc)]
    exact ih fun hmem => h (List.mem_append_left _ hmem)

theorem base_append (p : Path) {t : Text} (h : '/' ∉ t) : base (p ++ t) = base p ++ t := by
  have hwhole := lead_append_base (p ++ t)
  have hfront := lead_append_base p
  rw [lead_append p h] at hwhole
  have hcancel : lead p ++ base (p ++ t) = lead p ++ (base p ++ t) := by
    rw [hwhole, ← List.append_assoc, hfront]
  exact List.append_cancel_left hcancel

/-- A name is joined behind a path that ends in a slash. -/
theorem join_append (dir : Path) {front : Path} {name : Text} (hname : '/' ∉ name)
    (hfront : front = [] ∨ front.getLast? = some '/') :
    join dir (front ++ name) = join (join dir front) name := by
  have hrelative := isAbsolute_of_not_mem hname
  rcases hfront with rfl | hlast
  · have hempty : join dir []
        = if dir.isEmpty || dir.getLast? = some '/' then dir else dir ++ ['/'] := by
      rw [join_of_relative rfl, List.append_nil]
    rw [List.nil_append, hempty, join_of_relative hrelative]
    split
    · next hdir => rw [join_of_relative hrelative, if_pos hdir]
    · rw [join_of_relative hrelative, if_pos (by simp), List.append_assoc, List.singleton_append]
  · have hends : (join dir front).getLast? = some '/' := getLast?_join hlast
    have habsolute : isAbsolute (front ++ name) = isAbsolute front := by
      cases front with
      | nil => contradiction
      | cons c front => rfl
    have hbehind : join (join dir front) name = join dir front ++ name := by
      rw [join_of_relative hrelative, if_pos (by simp [hends])]
    rw [hbehind, join, join, habsolute]
    split
    · rfl
    split
    · rw [List.append_assoc]
    · rw [List.append_assoc, List.cons_append]

/-- A path joined to a directory is its last name, joined to what stands in front of that
name there. -/
theorem join_eq_join_lead (dir p : Path) : join dir p = join (join dir (lead p)) (base p) := by
  rw [← join_append dir (not_mem_base p) (lead_cases p), lead_append_base]

/-! ## Steps -/

/-- The step that a component is. -/
def Component.step? : Component → Option Text
  | .root => none
  | .current => none
  | .parent => some ['.', '.']
  | .name n => some n

theorem Component.step?_ofSegment (s : Text) : (Component.ofSegment s).step? = some s := by
  unfold Component.ofSegment
  split
  · next h => rw [h]; rfl
  · rfl

theorem Component.filterMap_step? (segments : List Text) :
    (segments.map ofSegment).filterMap step? = segments := by
  rw [List.filterMap_map]
  exact (congrArg (List.filterMap · segments) (funext step?_ofSegment)).trans List.filterMap_some

/-- The components of a path tell its steps. -/
theorem steps_eq (p : Path) : steps p = (components p).filterMap Component.step? := by
  obtain ⟨first, later, hp⟩ := exists_segments_eq_cons p
  rw [components_eq hp, steps, hp, List.filterMap_append,
    Component.filterMap_step?]
  by_cases hempty : first = []
  · subst hempty
    cases isAbsolute p <;> rfl
  by_cases hdot : first = ['.']
  · subst hdot
    rfl
  · have hfiller : isFiller first = false := by simp [isFiller, hempty, hdot]
    have hfirst : Component.ofFirst (isAbsolute p) first = [Component.ofSegment first] := by
      simp [Component.ofFirst, hempty, hdot]
    rw [List.filter_cons_of_pos (by simp [hfiller]), hfirst, List.filterMap_cons_some
      (Component.step?_ofSegment first)]
    rfl

/-- The components of a path tell whether it begins at the root. -/
theorem isAbsolute_eq (p : Path) : isAbsolute p = decide ((components p).head? = some .root) := by
  have hsegment (s : Text) : Component.ofSegment s ≠ .root := by
    unfold Component.ofSegment
    split <;> simp
  obtain ⟨first, later, hp⟩ := exists_segments_eq_cons p
  rw [components_eq hp]
  cases habsolute : isAbsolute p with
  | true =>
    obtain ⟨rest, rfl⟩ : ∃ rest, p = '/' :: rest := by
      cases p with
      | nil => contradiction
      | cons c rest =>
        obtain rfl : c = '/' := by simpa [isAbsolute] using habsolute
        exact ⟨rest, rfl⟩
    obtain ⟨rfl, -⟩ := List.cons.inj ((segments_cons_slash rest).symm.trans hp)
    rfl
  | false =>
    have hfirst : Component.root ∉ Component.ofFirst false first := by
      unfold Component.ofFirst
      split
      · simp
      split
      · simp
      · simpa using (hsegment first).symm
    refine (decide_eq_false fun hhead => ?_).symm
    rcases List.mem_append.mp (List.mem_of_head? hhead) with hmem | hmem
    · exact hfirst hmem
    · obtain ⟨s, -, hs⟩ := List.mem_map.mp hmem
      exact hsegment s hs

/-! ## Paths in a directory -/

/-- A path has the components of a directory and one more, which is a name. -/
def LiesIn (dir p : Path) : Prop :=
  ∃ name, IsName name ∧ components p = components dir ++ [.name name]

theorem LiesIn.isAbsolute {dir p : Path} (h : LiesIn dir p) : isAbsolute p = isAbsolute dir := by
  obtain ⟨name, -, hp⟩ := h
  rw [isAbsolute_eq, isAbsolute_eq, hp]
  cases components dir <;> rfl

theorem steps_of_components {dir p : Path} {name : Text}
    (h : components p = components dir ++ [.name name]) : steps p = steps dir ++ [name] := by
  rw [steps_eq, steps_eq, h, List.filterMap_append]
  rfl

/-- A path leads from a directory nowhere else: it is empty, or an absolute path to that
directory, or it stays where it starts. -/
def LeadsNowhere (dir p : Path) : Prop :=
  p = [] ∨ (isAbsolute p = true ∧ components p = components dir)
    ∨ (isAbsolute p = false ∧ dir ≠ [] ∧ ∀ s ∈ segments p, isFiller s = true)

instance (dir p : Path) : Decidable (LeadsNowhere dir p) :=
  inferInstanceAs (Decidable (_ ∨ _))

theorem isAbsolute_of_segments {p : Path} {later : List Text} (h : segments p = [] :: later) :
    p = [] ∨ isAbsolute p = true := by
  have hp : Text.join ['/'] (segments p) = p := Text.join_splitOn '/' p
  rw [h] at hp
  cases later with
  | nil => exact .inl hp.symm
  | cons s later =>
    rw [← hp]
    exact .inr rfl

theorem components_eq_nil {p : Path} (h : isAbsolute p = false) : components p = [] ↔ p = [] := by
  constructor
  · intro hnil
    obtain ⟨first, later, hp⟩ := exists_segments_eq_cons p
    rw [components_eq hp, List.append_eq_nil_iff] at hnil
    have hfirst : first = [] := by
      have hnone := hnil.1
      unfold Component.ofFirst at hnone
      by_contra hne
      rw [if_neg (by simpa using hne)] at hnone
      split at hnone <;> contradiction
    rw [hfirst] at hp
    exact (isAbsolute_of_segments hp).resolve_right (by simp [h])
  · rintro rfl
    rfl

/-- A directory and a path in it have the same components exactly if the path leads
nowhere. -/
theorem components_join_eq_self {dir p : Path} :
    components (join dir p) = components dir ↔ LeadsNowhere dir p := by
  unfold LeadsNowhere
  cases habsolute : isAbsolute p with
  | true =>
    have hjoin : join dir p = p := by rw [join, habsolute, if_pos rfl]
    have hne : p ≠ [] := by
      rintro rfl
      contradiction
    simp [hjoin, hne]
  | false =>
    by_cases hdir : dir = []
    · have hjoin : join [] p = p := join_of_relative habsolute
      have hnil : components [] = [] := rfl
      rw [hdir, hjoin, hnil]
      simpa using components_eq_nil habsolute
    · have hempty : p = [] → ∀ s ∈ segments p, isFiller s = true := by
        rintro rfl
        decide
      rw [components_join_relative hdir habsolute, List.append_right_eq_self, List.map_eq_nil_iff, steps,
        List.filter_eq_nil_iff]
      simpa [hdir] using hempty

end Path

/-! ## Places -/

namespace Workspace

open TableScaffold.Path

variable {w : Workspace} {start place : Place} {segments : List Text}

/-- Where segments lead, those of them lead that lead somewhere. -/
theorem foldlM_step_filter (h : segments.foldlM w.step start = .ok place) :
    (segments.filter (!isFiller ·)).foldlM w.step start = .ok place := by
  induction segments generalizing start with
  | nil => exact h
  | cons s segments ih =>
    obtain ⟨next, hstep, hrest⟩ := bind_eq_ok.mp (List.foldlM_cons.symm.trans h)
    cases hs : isFiller s with
    | true =>
      rw [List.filter_cons_of_neg (by simp [hs])]
      have hnext : next = start := by
        rw [Workspace.step, entryAt_of_step hstep] at hstep
        simpa [hs, eq_comm] using hstep
      rw [← hnext]
      exact ih hrest
    | false =>
      rw [List.filter_cons_of_pos (by simp [hs]), List.foldlM_cons]
      exact bind_eq_ok.mpr ⟨next, hstep, ih hrest⟩

/-- What leads to a directory starts from one. -/
theorem entryAt_of_foldlM_step (hd : w.entryAt place = some .directory)
    (h : segments.foldlM w.step start = .ok place) : w.entryAt start = some .directory := by
  cases segments with
  | nil =>
    cases h
    exact hd
  | cons s segments =>
    obtain ⟨_, hstep, -⟩ := bind_eq_ok.mp (List.foldlM_cons.symm.trans h)
    exact entryAt_of_step hstep

/-- Segments lead to a directory if those of them do that lead somewhere. -/
theorem foldlM_step_of_filter (hd : w.entryAt place = some .directory)
    (h : (segments.filter (!isFiller ·)).foldlM w.step start = .ok place) :
    segments.foldlM w.step start = .ok place := by
  induction segments generalizing start with
  | nil => exact h
  | cons s segments ih =>
    rw [List.foldlM_cons, bind_eq_ok]
    cases hs : isFiller s with
    | true =>
      rw [List.filter_cons_of_neg (by simp [hs])] at h
      refine ⟨start, ?_, ih h⟩
      rw [Workspace.step, entryAt_of_foldlM_step hd h]
      exact if_pos hs
    | false =>
      rw [List.filter_cons_of_pos (by simp [hs]), List.foldlM_cons, bind_eq_ok] at h
      obtain ⟨next, hstep, hrest⟩ := h
      exact ⟨next, hstep, ih hrest⟩

/-- A path with the components of a directory and a name more leads one step below the
place of the directory. -/
theorem exists_resolveInto {dir p : Path} {name : Text} (hname : IsName name)
    (hp : components p = components dir ++ [.name name]) (h : w.resolve p = .ok place) :
    ∃ d, w.resolveInto dir = .ok d ∧ place = d ++ [name] := by
  obtain ⟨-, hsteps⟩ := resolve_eq_ok.mp h
  have hfold := foldlM_step_filter hsteps
  rw [← Path.steps, steps_of_components hp, foldlM_step_concat] at hfold
  obtain ⟨d, hd, hstep⟩ := hfold
  obtain ⟨hdirectory, -, rfl⟩ := (step_name hname).mp hstep
  refine ⟨d, ?_, rfl⟩
  rw [← filter_stepsInto] at hd
  have habsolute : isAbsolute p = isAbsolute dir := LiesIn.isAbsolute ⟨name, hname, hp⟩
  rw [habsolute] at hd
  exact foldlM_step_of_filter hdirectory hd

end Workspace

end TableScaffold
