import TableScaffold.Proofs.Files.Writing

set_option autoImplicit false

/-!
# Trees of files

A workspace is held as a list of entries, and not every list is a tree: it may have a file in a
place above which nothing is, and relative paths may start from nowhere.  What a file operation
makes of a tree is a tree (`Sound.put`), so a tree is left behind wherever writes succeed
(`Sound.wroteAll`).
-/

namespace TableScaffold

namespace Workspace

/-- What a tree is like: relative paths start from a directory, and every entry is in one. -/
structure Sound (w : Workspace) : Prop where
  home : w.entryAt w.home = some .directory
  above : ∀ e ∈ w.entries, w.entryAt e.1.dropLast = some .directory

instance (w : Workspace) : Decidable w.Sound :=
  decidable_of_iff
    (w.entryAt w.home = some .directory ∧ ∀ e ∈ w.entries, w.entryAt e.1.dropLast = some .directory)
    ⟨fun h => ⟨h.1, h.2⟩, fun h => ⟨h.home, h.above⟩⟩

namespace Sound

variable {w w' : Workspace} {p : Path} {place : Place} {e : FileEntry}

theorem mem_of_lookup {es : List (Place × FileEntry)} (h : es.lookup place = some e) :
    (place, e) ∈ es := by
  obtain ⟨before, after, rfl, -⟩ := List.lookup_eq_some_iff.mp h
  exact List.mem_append_right _ (.head _)

/-- Whatever is in a tree is in a directory. -/
theorem dropLast (h : w.Sound) (hentry : w.entryAt place = some e) :
    w.entryAt place.dropLast = some .directory := by
  unfold entryAt at hentry
  split at hentry
  · next hempty =>
    rw [List.isEmpty_iff.mp hempty]
    rfl
  · exact h.above _ (mem_of_lookup hentry)

/-- A step leads into a directory. -/
theorem dropLast_of_step (h : w.Sound) {start next : Place} {s : Text}
    (hs : w.step start s = .ok next) : w.entryAt next.dropLast = some .directory := by
  have hstart := entryAt_of_step hs
  unfold step at hs
  rw [hstart] at hs
  dsimp only at hs
  split at hs
  · cases hs
    exact h.dropLast hstart
  split at hs
  · cases hs
    exact h.dropLast (h.dropLast hstart)
  split at hs
  · cases hs
  · cases hs
    rw [List.dropLast_concat]
    exact hstart

theorem dropLast_of_steps (h : w.Sound) {segments : List Text} {start : Place}
    (hstart : w.entryAt start.dropLast = some .directory)
    (hs : segments.foldlM w.step start = .ok place) :
    w.entryAt place.dropLast = some .directory := by
  induction segments generalizing start with
  | nil =>
    cases hs
    exact hstart
  | cons s segments ih =>
    rw [List.foldlM_cons] at hs
    obtain ⟨next, hnext, hrest⟩ := bind_eq_ok.mp hs
    exact ih (h.dropLast_of_step hnext) hrest

/-- A path leads into a directory, where something may be or not. -/
theorem dropLast_of_resolve (h : w.Sound) (hp : w.resolve p = .ok place) :
    w.entryAt place.dropLast = some .directory := by
  refine h.dropLast_of_steps ?_ (resolve_eq_ok.mp hp).2
  split
  · rfl
  · exact h.dropLast h.home

/-- What is put into a directory of a tree, and not over one, leaves a tree. -/
theorem put (h : w.Sound) (habove : w.entryAt place.dropLast = some .directory)
    (hne : w.entryAt place ≠ some .directory) (e : FileEntry) : (w.put place e).Sound := by
  have hkeep {other : Place} (hother : w.entryAt other = some .directory) :
      (w.put place e).entryAt other = some .directory := by
    rw [entryAt_put_of_ne_directory hne, if_neg, hother]
    rintro rfl
    exact hne hother
  have hmem {es : List (Place × FileEntry)} {entry : Place × FileEntry}
      (hentry : entry ∈ putEntry place e es) : entry = (place, e) ∨ entry ∈ es := by
    induction es with
    | nil => exact .inl (List.mem_singleton.mp hentry)
    | cons old rest ih =>
      obtain ⟨other, there⟩ := old
      unfold putEntry at hentry
      split at hentry
      · rcases List.mem_cons.mp hentry with rfl | hrest
        · exact .inl rfl
        · exact .inr (List.mem_cons_of_mem _ hrest)
      · rcases List.mem_cons.mp hentry with rfl | hrest
        · exact .inr (.head _)
        · exact (ih hrest).imp_right (List.mem_cons_of_mem _)
  refine ⟨hkeep h.home, fun entry hentry => ?_⟩
  rcases hmem hentry with rfl | hold
  · exact hkeep habove
  · exact hkeep (h.above entry hold)

theorem makeDirectory (h : w.Sound) (hw : w.makeDirectory p = .ok w') : w'.Sound := by
  unfold Workspace.makeDirectory at hw
  split at hw
  · cases hw
  · next place hplace =>
    split at hw
    · cases hw
    · next hnone =>
      cases hw
      exact h.put (h.dropLast_of_resolve hplace) (by simp [hnone]) .directory

theorem made (h : w.Sound) (hw : Made w w') : w'.Sound := by
  induction hw with
  | none => exact h
  | more hfirst _ ih => exact ih (h.makeDirectory hfirst)

variable [GoFormatter]

/-- A write leaves a tree, whether it succeeds or not. -/
theorem write (h : w.Sound) (o : Output) : (w.write o).Sound := by
  have habove := h.made (makeAbove_made w o.path)
  cases hw : (w.makeAbove o.path).writeBytes o.path (FileAccess.bytesOfText o.text) with
  | error fault =>
    rw [Workspace.write, hw]
    exact habove
  | ok w' =>
    obtain ⟨place, hplace, hne, -⟩ := writeBytes_eq_ok.mp hw
    rw [write_eq_put hplace hne]
    exact habove.put (habove.dropLast_of_resolve hplace) hne _

theorem wroteAll (h : w.Sound) {os : List Output} (hw : WroteAll os w w') : w'.Sound := by
  induction hw with
  | nil => exact h
  | cons ho _ ih =>
    apply ih
    rw [ho.eq_write]
    exact h.write _

end Sound

end Workspace

/-- A workspace that is a tree. -/
structure Tree extends Workspace where
  sound : toWorkspace.Sound

namespace Tree

instance : Coe Tree Workspace := ⟨Tree.toWorkspace⟩

/-- The tree in which there is nothing. -/
def empty : Tree := ⟨{}, by decide⟩

end Tree

end TableScaffold
