import TableScaffold.Proofs.Files.Beneath

set_option autoImplicit false

/-!
# Writing what is there

Where a file is, it can be written again, and nothing has to be made for it
(`write_of_hasFile`).  A file that is written twice holds what was written last, whatever it
held before, so a sequence of writes that ends with what is there changes nothing
(`foldl_write_eq_self`); writing the same files once more is such a sequence
(`WroteAll.again`).  Where a path leads depends on the directory it starts from, and on nothing
else as long as it leads somewhere (`resolve_unique`).
-/

namespace TableScaffold.Workspace

open TableScaffold.Path

/-! ## Replacing an entry -/

section Entries

variable {w : Workspace} {place other : Place} {e e' : FileEntry} {es : List (Place × FileEntry)}

/-- What is there already can be replaced before or after something else is put in. -/
theorem putEntry_comm (hne : other ≠ place) (hthere : (es.lookup place).isSome = true) :
    putEntry place e (putEntry other e' es) = putEntry other e' (putEntry place e es) := by
  induction es with
  | nil => cases hthere
  | cons old rest ih =>
    obtain ⟨key, v⟩ := old
    by_cases hkey : key = place
    · simp [putEntry, hkey, hne.symm]
    · have hrest : (rest.lookup place).isSome = true := by
        simpa [List.lookup_cons, beq_eq_false_iff_ne.mpr (Ne.symm hkey)] using hthere
      by_cases hother : key = other
      · simp [putEntry, hother, hne]
      · simp [putEntry, hkey, hother, ih hrest]

theorem putEntry_of_lookup (h : es.lookup place = some e) : putEntry place e es = es := by
  induction es with
  | nil => cases h
  | cons old rest ih =>
    obtain ⟨key, v⟩ := old
    by_cases hkey : key = place
    · subst hkey
      simpa [putEntry, eq_comm] using h
    · have hrest : rest.lookup place = some e := by
        simpa [List.lookup_cons, beq_eq_false_iff_ne.mpr (Ne.symm hkey)] using h
      simp [putEntry, hkey, ih hrest]

/-- A place with a file is not the root. -/
theorem HasFile.ne_nil (h : w.HasFile place) : place ≠ [] := by
  rintro rfl
  obtain ⟨bytes, hbytes⟩ := h
  cases hbytes

theorem lookup_of_entryAt (hne : place ≠ []) : w.entries.lookup place = w.entryAt place := by
  unfold entryAt
  rw [if_neg (by simpa using hne)]

theorem put_comm (hne : other ≠ place) (hfile : w.HasFile place) :
    (w.put other e').put place e = (w.put place e).put other e' := by
  have hthere : (w.entries.lookup place).isSome = true := by
    obtain ⟨bytes, hbytes⟩ := hfile
    rw [lookup_of_entryAt (HasFile.ne_nil ⟨bytes, hbytes⟩), hbytes]
    rfl
  unfold put
  rw [putEntry_comm hne hthere]

/-- Putting what is there changes nothing. -/
theorem put_of_entryAt {bytes : ByteArray} (h : w.entryAt place = some (.file bytes)) :
    w.put place (.file bytes) = w := by
  unfold put
  rw [putEntry_of_lookup]
  rw [lookup_of_entryAt (HasFile.ne_nil ⟨bytes, h⟩), h]

end Entries

/-! ## Files that are there -/

section Files

variable {w w₁ w₂ : Workspace} {p : Path} {place : Place} {o : Output} {os : List Output}

theorem HasFile.ne_directory (h : w.HasFile place) : w.entryAt place ≠ some .directory := by
  obtain ⟨bytes, hbytes⟩ := h
  rw [hbytes]
  nofun

/-- Above a file all directories are there. -/
theorem run_makeDirectories_of_hasFile {dir : Path} (hp : w.resolve p = .ok place)
    (hfile : w.HasFile place) (hdir : p.parent? = some dir) :
    (FileAccess.makeDirectories dir : StateM Workspace (Except FileFault Unit)).run w
      = (.ok (), w) := by
  obtain ⟨hfits, -⟩ := resolve_eq_ok.mp hp
  obtain ⟨first, later, hsegments, rfl, ⟨rfl, hfirst⟩ | ⟨s, rest, rfl, hs⟩⟩ :=
    exists_upTo_of_hasFile hp hfile
  · rw [parent?, above_upTo hsegments, aboveReversed, if_neg (by simpa using hfirst)] at hdir
    cases hdir
    rfl
  · rw [parent?, above_upTo hsegments, aboveReversed, hs, if_neg Bool.false_ne_true] at hdir
    cases hdir
    obtain ⟨d, hd, hstep⟩ := (resolve_upTo_cons hsegments hs hfits).mp hp
    exact run_makeNested_of_ok (upTo_ne_nil first rest)
      (run_ensureDirectory_of_directory hd (entryAt_of_step hstep)
        (dropTrailingSlashes_upTo hsegments.tail))

theorem makeAbove_of_hasFile (hp : w.resolve p = .ok place) (hfile : w.HasFile place) :
    w.makeAbove p = w := by
  unfold makeAbove
  split
  · next dir hdir => rw [run_makeDirectories_of_hasFile hp hfile hdir]
  · rfl

/-- A file that is there gets its new bytes, and that is all. -/
theorem write_of_hasFile [GoFormatter] (hp : w.resolve o.path = .ok place)
    (hfile : w.HasFile place) :
    w.write o = w.put place (.file o.bytes) := by
  have habove := makeAbove_of_hasFile hp hfile
  have hwrite := @write_eq_put _ w o place
  rw [habove] at hwrite
  exact hwrite hp hfile.ne_directory

theorem Extends.holds {touched : Place → Prop} (h : Extends touched w w₁) (hp : w.Holds p) :
    w₁.Holds p := by
  obtain ⟨place, hplace, hfile⟩ := holds_iff.mp hp
  exact holds_iff.mpr ⟨place, h.resolve hplace, h.hasFile hfile⟩

/-- What is put where a file is shows no more once that file is written. -/
theorem foldl_write_put [GoFormatter] {bytes : ByteArray} (hos : ∀ o ∈ os, w.Holds o.path)
    (hfile : w.HasFile place) (hwritten : ∃ o ∈ os, w.resolve o.path = .ok place) :
    os.foldl write (w.put place (.file bytes)) = os.foldl write w := by
  induction os generalizing w with
  | nil =>
    obtain ⟨o, ho, -⟩ := hwritten
    cases ho
  | cons o os ih =>
    obtain ⟨hfirst, hrest⟩ := List.forall_mem_cons.mp hos
    obtain ⟨next, hnext, hnextFile⟩ := holds_iff.mp hfirst
    have hput := put_extends hfile.ne_directory bytes
    have hwrite := put_extends hnextFile.ne_directory o.bytes
    rw [List.foldl_cons, List.foldl_cons, write_of_hasFile hnext hnextFile,
      write_of_hasFile (hput.resolve hnext) (hput.hasFile hnextFile)]
    by_cases heq : next = place
    · rw [heq, put_put]
    · rw [put_comm (Ne.symm heq) hnextFile]
      apply ih (fun o' ho' => hwrite.holds (hrest o' ho')) (hwrite.hasFile hfile)
      obtain ⟨o', ho', hplace⟩ := hwritten
      rcases List.mem_cons.mp ho' with rfl | ho'
      · exact absurd (Except.ok.inj (hnext.symm.trans hplace)) heq
      · exact ⟨o', ho', hwrite.resolve hplace⟩

/-- Writing files that hold already what is written last to them changes nothing. -/
theorem foldl_write_eq_self [GoFormatter] (hos : ∀ o ∈ os, w.Holds o.path)
    (hlast : ∀ before o after, os = before ++ o :: after →
      (∀ later ∈ after, w.resolve later.path ≠ w.resolve o.path) →
        w.readBytes o.path = .ok o.bytes) :
    os.foldl write w = w := by
  induction os with
  | nil => rfl
  | cons o os ih =>
    obtain ⟨hfirst, hrest⟩ := List.forall_mem_cons.mp hos
    have hsame : os.foldl write w = w := by
      apply ih hrest
      rintro before o' after rfl
      exact hlast (o :: before) o' after rfl
    obtain ⟨place, hplace, hfile⟩ := holds_iff.mp hfirst
    rw [List.foldl_cons, write_of_hasFile hplace hfile]
    by_cases hagain : ∃ later ∈ os, w.resolve later.path = .ok place
    · rw [foldl_write_put hrest hfile hagain, hsame]
    · have hbytes : w.readBytes o.path = .ok o.bytes := by
        apply hlast [] o os rfl
        intro later hlater heq
        exact hagain ⟨later, hlater, heq.trans hplace⟩
      obtain ⟨place', hplace', hentry⟩ := readBytes_eq_ok.mp hbytes
      obtain rfl := Except.ok.inj (hplace.symm.trans hplace')
      rw [put_of_entryAt hentry, hsame]

/-- The same writes once more change nothing. -/
theorem WroteAll.again [GoFormatter] (h : WroteAll os w w₁) (h' : WroteAll os w₁ w₂) : w₂ = w₁ := by
  rw [h'.eq_foldl]
  apply foldl_write_eq_self fun o ho => h.holds ho
  rintro before o after rfl hlast
  exact h.readBytes hlast

end Files

/-! ## Paths elsewhere -/

section Paths

variable {v w : Workspace} {p : Path} {start place place' next next' : Place} {s : Text}
  {segments : List Text}

theorem step_unique (hv : v.step place s = .ok next) (hw : w.step place s = .ok next') :
    next = next' := by
  rw [step_eq_of_directory (entryAt_of_step hv) (entryAt_of_step hw)] at hv
  exact Except.ok.inj (hv.symm.trans hw)

theorem foldlM_step_unique (hv : segments.foldlM v.step start = .ok place)
    (hw : segments.foldlM w.step start = .ok place') : place = place' := by
  induction segments generalizing start with
  | nil => exact Except.ok.inj (hv.symm.trans hw)
  | cons s segments ih =>
    rw [List.foldlM_cons, bind_eq_ok] at hv hw
    obtain ⟨next, hstep, hv⟩ := hv
    obtain ⟨next', hstep', hw⟩ := hw
    obtain rfl := step_unique hstep hstep'
    exact ih hv hw

/-- A path leads to one place from one directory, whatever else is there. -/
theorem resolve_unique (hhome : v.home = w.home) (hv : v.resolve p = .ok place)
    (hw : w.resolve p = .ok place') : place = place' := by
  obtain ⟨-, hv⟩ := resolve_eq_ok.mp hv
  obtain ⟨-, hw⟩ := resolve_eq_ok.mp hw
  rw [hhome] at hv
  exact foldlM_step_unique hv hw

end Paths

end TableScaffold.Workspace
