import TableScaffold.Proofs.Files.Place

set_option autoImplicit false

/-!
# What file operations leave alone

A file operation takes nothing away: it makes directories where nothing was, or
gives the place of one file new bytes (`Extends`).  So a path that leads somewhere
leads there for good (`Extends.resolve`), and a file at an untouched place keeps
its bytes (`Extends.entryAt_file`).
-/

namespace TableScaffold.Workspace

/-- A workspace that differs from the one before in more directories and in the
files at some places. -/
structure Extends (touched : Place → Prop) (w w' : Workspace) : Prop where
  home : w'.home = w.home
  entry : ∀ place, w'.entryAt place = w.entryAt place
    ∨ w.entryAt place = none ∧ w'.entryAt place = some .directory
    ∨ touched place ∧ w.entryAt place ≠ some .directory
      ∧ ∃ bytes, w'.entryAt place = some (.file bytes)

namespace Extends

variable {touched touched' : Place → Prop} {w w' w'' : Workspace} {place start : Place} {p : Path}

theorem refl (w : Workspace) : Extends touched w w := ⟨rfl, fun _ => .inl rfl⟩

theorem mono (h : Extends touched w w') (himp : ∀ place, touched place → touched' place) :
    Extends touched' w w' where
  home := h.home
  entry place := (h.entry place).imp id (Or.imp id (And.imp_left (himp place)))

theorem directory (h : Extends touched w w') (hd : w.entryAt place = some .directory) :
    w'.entryAt place = some .directory := by
  rcases h.entry place with heq | ⟨hnone, -⟩ | ⟨-, hne, -⟩
  · rw [heq, hd]
  · cases hd.symm.trans hnone
  · exact absurd hd hne

theorem trans (h : Extends touched w w') (h' : Extends touched w' w'') :
    Extends touched w w'' where
  home := h'.home.trans h.home
  entry place := by
    rcases h'.entry place with heq | ⟨hnone, hd⟩ | ⟨ht, hne, hfile⟩
    · rw [heq]
      exact h.entry place
    · rcases h.entry place with heq | ⟨-, hd'⟩ | ⟨-, -, _, hfile⟩
      · exact .inr (.inl ⟨heq ▸ hnone, hd⟩)
      · cases hd'.symm.trans hnone
      · cases hfile.symm.trans hnone
    · exact .inr (.inr ⟨ht, fun hd => hne (h.directory hd), hfile⟩)

/-- A file at a place that is not touched stays as it is, and none appears there. -/
theorem entryAt_file (h : Extends touched w w') (hplace : ¬ touched place) {bytes : ByteArray} :
    w'.entryAt place = some (.file bytes) ↔ w.entryAt place = some (.file bytes) := by
  rcases h.entry place with heq | ⟨hnone, hd⟩ | ⟨ht, -⟩
  · rw [heq]
  · rw [hnone, hd]
    exact ⟨nofun, nofun⟩
  · exact absurd ht hplace

/-! ## Paths -/

theorem step (h : Extends touched w w') {segment : Text} {next : Place}
    (hstep : w.step place segment = .ok next) : w'.step place segment = .ok next := by
  have hd := entryAt_of_step hstep
  unfold Workspace.step at hstep ⊢
  rw [hd] at hstep
  rw [h.directory hd]
  exact hstep

theorem foldlM_step (h : Extends touched w w') {segments : List Text}
    (hsteps : segments.foldlM w.step start = .ok place) :
    segments.foldlM w'.step start = .ok place := by
  induction segments generalizing start with
  | nil => exact hsteps
  | cons segment segments ih =>
    rw [List.foldlM_cons, bind_eq_ok] at hsteps ⊢
    obtain ⟨next, hstep, hrest⟩ := hsteps
    exact ⟨next, h.step hstep, ih hrest⟩

/-- A path that leads somewhere still does. -/
theorem resolve (h : Extends touched w w') (hp : w.resolve p = .ok place) :
    w'.resolve p = .ok place := by
  obtain ⟨hfits, hsteps⟩ := resolve_eq_ok.mp hp
  rw [resolve_eq_ok, h.home]
  exact ⟨hfits, h.foldlM_step hsteps⟩

theorem resolveInto (h : Extends touched w w') (hp : w.resolveInto p = .ok place) :
    w'.resolveInto p = .ok place := by
  unfold Workspace.resolveInto at hp ⊢
  rw [h.home]
  exact h.foldlM_step hp

end Extends

/-! ## Operations -/

variable {w w' : Workspace} {p : Path} {place : Place}

theorem entryAt_nil (w : Workspace) : w.entryAt [] = some .directory := rfl

/-- What is at a place where there was no directory is put there, and nothing else is. -/
theorem entryAt_put_of_ne_directory (h : w.entryAt place ≠ some .directory) (e : FileEntry)
    (other : Place) :
    (w.put place e).entryAt other = if other = place then some e else w.entryAt other := by
  refine entryAt_put w ?_ e other
  rintro rfl
  exact h (entryAt_nil w)

theorem makeDirectory_extends (h : w.makeDirectory p = .ok w') :
    Extends (fun _ => False) w w' := by
  unfold makeDirectory at h
  split at h
  · cases h
  split at h
  · cases h
  · next place _ hnone =>
    cases h
    refine ⟨rfl, fun other => ?_⟩
    rw [entryAt_put_of_ne_directory (by simp [hnone])]
    split
    · next heq => exact .inr (.inl ⟨heq ▸ hnone, rfl⟩)
    · exact .inl rfl

theorem readBytes_eq_ok {bytes : ByteArray} : w.readBytes p = .ok bytes
    ↔ ∃ place, w.resolve p = .ok place ∧ w.entryAt place = some (.file bytes) := by
  unfold readBytes
  cases w.resolve p with
  | error e =>
    refine ⟨nofun, ?_⟩
    rintro ⟨_, h, -⟩
    cases h
  | ok place =>
    dsimp only
    constructor
    · intro h
      refine ⟨place, rfl, ?_⟩
      split at h
      · cases h
      · cases h
      · next hentry => rw [hentry, Except.ok.inj h]
    · rintro ⟨_, h, hentry⟩
      rw [Except.ok.inj h, hentry]

/-- A file is written where its path leads. -/
theorem writeBytes_eq_ok {bytes : ByteArray} : w.writeBytes p bytes = .ok w'
    ↔ ∃ place, w.resolve p = .ok place ∧ w.entryAt place ≠ some .directory
      ∧ w' = w.put place (.file bytes) := by
  unfold writeBytes
  cases w.resolve p with
  | error e =>
    refine ⟨nofun, ?_⟩
    rintro ⟨_, h, -⟩
    cases h
  | ok place =>
    dsimp only
    split
    · next hd =>
      refine ⟨nofun, ?_⟩
      rintro ⟨_, h, hne, -⟩
      rw [Except.ok.inj h] at hd
      exact absurd hd hne
    · next hne =>
      constructor
      · intro h
        exact ⟨place, rfl, hne, (Except.ok.inj h).symm⟩
      · rintro ⟨_, h, -, rfl⟩
        rw [Except.ok.inj h]

theorem put_extends (h : w.entryAt place ≠ some .directory) (bytes : ByteArray) :
    Extends (· = place) w (w.put place (.file bytes)) := by
  refine ⟨rfl, fun other => ?_⟩
  rw [entryAt_put_of_ne_directory h]
  split
  · next heq => exact .inr (.inr ⟨heq, heq ▸ h, bytes, rfl⟩)
  · exact .inl rfl

theorem putEntry_putEntry {e e' : FileEntry} {es : List (Place × FileEntry)} :
    putEntry place e (putEntry place e' es) = putEntry place e es := by
  induction es with
  | nil => simp [putEntry]
  | cons old rest ih =>
    obtain ⟨key, v⟩ := old
    by_cases hkey : key = place
    · simp [putEntry, hkey]
    · simp [putEntry, hkey, ih]

theorem put_put {e e' : FileEntry} : (w.put place e').put place e = w.put place e := by
  unfold put
  rw [putEntry_putEntry]

/-- The formatter changes a file that was just written, and nothing else. -/
theorem formatFile_put [GoFormatter] (hplace : w.resolve p = .ok place)
    (hne : w.entryAt place ≠ some .directory) (bytes : ByteArray) :
    (w.put place (.file bytes)).formatFile p
      = w.put place (.file ((GoFormatter.format? p bytes).getD bytes)) := by
  have hresolve := (put_extends hne bytes).resolve hplace
  have hentry : (w.put place (.file bytes)).entryAt place = some (.file bytes) := by
    rw [entryAt_put_of_ne_directory hne, if_pos rfl]
  unfold formatFile
  rw [readBytes_eq_ok.mpr ⟨place, hresolve, hentry⟩]
  dsimp only
  cases GoFormatter.format? p bytes with
  | none => rfl
  | some formatted =>
    have hagain : (w.put place (.file bytes)).entryAt place ≠ some .directory := by
      rw [hentry]
      nofun
    dsimp only
    rw [writeBytes_eq_ok.mpr ⟨place, hresolve, hagain, rfl⟩, put_put]
    rfl

/-! ## Directories -/

/-- What a workspace becomes when directories are made in it, one after the other. -/
inductive Made : Workspace → Workspace → Prop
  | none (w : Workspace) : Made w w
  | more {w w₁ w₂ : Workspace} {p : Path} (first : w.makeDirectory p = .ok w₁) (rest : Made w₁ w₂) :
    Made w w₂

theorem Made.trans {w₁ w₂ : Workspace} (h : Made w w₁) (h' : Made w₁ w₂) : Made w w₂ := by
  induction h with
  | none => exact h'
  | more hfirst _ ih => exact .more hfirst (ih h')

/-- Where directories are made, no file changes. -/
theorem Made.extends (h : Made w w') : Extends (fun _ => False) w w' := by
  induction h with
  | none w => exact .refl w
  | more hfirst _ ih => exact (makeDirectory_extends hfirst).trans ih

variable {α β : Type}

/-- An action that makes directories and does nothing else. -/
def AddsDirectories (x : StateM Workspace α) : Prop := ∀ w, Made w (x.run w).2

theorem addsDirectories_pure (a : α) : AddsDirectories (pure a) := .none

theorem AddsDirectories.bind {x : StateM Workspace α} {f : α → StateM Workspace β}
    (h : AddsDirectories x) (hf : ∀ a, AddsDirectories (f a)) : AddsDirectories (x >>= f) :=
  fun w => (h w).trans (hf (x.run w).1 (x.run w).2)

theorem addsDirectories_isDirectory (p : Path) :
    AddsDirectories (FileAccess.isDirectory p : StateM Workspace Bool) := .none

theorem addsDirectories_makeDirectory (p : Path) :
    AddsDirectories (FileAccess.makeDirectory p : StateM Workspace (Except FileFault Unit)) := by
  intro w
  change Made w (act (·.makeDirectory p) w).2
  unfold act
  cases h : w.makeDirectory p with
  | ok w' => simpa [h] using Made.more h (.none w')
  | error e => simpa [h] using Made.none w

theorem addsDirectories_ensureDirectory (p : Path) :
    AddsDirectories (FileAccess.ensureDirectory p : StateM Workspace (Except FileFault Unit)) := by
  unfold FileAccess.ensureDirectory
  refine (addsDirectories_makeDirectory p).bind fun result => ?_
  cases result with
  | ok _ => exact addsDirectories_pure _
  | error e =>
    refine (addsDirectories_isDirectory p).bind fun there => ?_
    cases there <;> exact addsDirectories_pure _

/-- Making a directory and those above it makes directories. -/
theorem addsDirectories_makeDirectories (p : Path) :
    AddsDirectories (FileAccess.makeDirectories p : StateM Workspace (Except FileFault Unit)) := by
  unfold FileAccess.makeDirectories
  generalize p :: p.above = ps
  induction ps with
  | nil => exact addsDirectories_pure _
  | cons p above ih =>
    unfold FileAccess.makeNested
    split
    · exact addsDirectories_pure _
    refine (addsDirectories_ensureDirectory p).bind fun result => ?_
    split
    · refine ih.bind fun made => ?_
      cases made with
      | ok _ => exact addsDirectories_ensureDirectory p
      | error _ => exact addsDirectories_pure _
    · exact addsDirectories_pure _

end TableScaffold.Workspace
