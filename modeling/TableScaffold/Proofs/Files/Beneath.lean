import TableScaffold.Proofs.Files.Above
import TableScaffold.Proofs.Files.Writing

set_option autoImplicit false

/-!
# Writing where less is there

A workspace is beneath another one if it starts from the same directory and has only
directories and files that the other one has too, whatever is in the files.  A file that is in
the larger one can be written in the one beneath it: a directory that is missing on the way to
it can be made (`Beneath.makeNested`), and nothing stands in its way.  What is written this way
is still beneath the larger one (`Beneath.write`).
-/

namespace TableScaffold.Workspace

open TableScaffold.Path

/-- There is a file at a place. -/
def HasFile (w : Workspace) (place : Place) : Prop := ∃ bytes, w.entryAt place = some (.file bytes)

theorem Extends.hasFile {touched : Place → Prop} {w w' : Workspace} {place : Place}
    (h : Extends touched w w') (hfile : w.HasFile place) : w'.HasFile place := by
  obtain ⟨bytes, hbytes⟩ := hfile
  rcases h.entry place with heq | ⟨hnone, -⟩ | ⟨-, -, hwritten⟩
  · exact ⟨bytes, heq.trans hbytes⟩
  · cases hnone.symm.trans hbytes
  · exact hwritten

/-- A workspace in which there is less than in another one. -/
structure Beneath (v w : Workspace) : Prop where
  home : v.home = w.home
  /-- relative paths start from a directory -/
  start : v.entryAt v.home = some .directory
  directory : ∀ place, v.entryAt place = some .directory → w.entryAt place = some .directory
  file : ∀ place, v.HasFile place → w.HasFile place

theorem Extends.beneath {touched : Place → Prop} {w w' : Workspace} (h : Extends touched w w')
    (hstart : w.entryAt w.home = some .directory) : w.Beneath w' where
  home := h.home.symm
  start := hstart
  directory _ := h.directory
  file _ := h.hasFile

theorem Beneath.refl {w : Workspace} (hstart : w.entryAt w.home = some .directory) :
    w.Beneath w :=
  (Extends.refl w : Extends (fun _ => False) w w).beneath hstart

/-- Where there is nothing, there is less than in every other workspace. -/
theorem Beneath.of_empty {v w : Workspace} (hv : v.home = []) (hw : w.home = [])
    (hempty : v.entries = []) : v.Beneath w where
  home := hv.trans hw.symm
  start := by
    rw [hv]
    rfl
  directory place hplace := by
    unfold entryAt at hplace ⊢
    split
    · rfl
    · next hne =>
      rw [if_neg hne, hempty] at hplace
      cases hplace
  file place hfile := by
    obtain ⟨bytes, hbytes⟩ := hfile
    unfold entryAt at hbytes
    split at hbytes
    · cases hbytes
    · rw [hempty] at hbytes
      cases hbytes

/-! ## Paths -/

section Paths

variable {v w : Workspace} {p : Path} {place start next d : Place} {first s : Text}
  {later segments : List Text}

theorem resolve_of_fits (h : Fits p) :
    w.resolve p = (Path.segments p).foldlM w.step (if p.isAbsolute then [] else w.home) := by
  unfold resolve
  rw [h.not_nul, h.not_empty, if_neg Bool.false_ne_true, if_neg Bool.false_ne_true,
    if_neg (Nat.not_le.mpr h.short)]

theorem Fits.of_isPrefix {q : Path} (h : Fits p) (hq : q <+: p) (hne : q ≠ []) : Fits q where
  not_nul := by
    have hmem : '\x00' ∉ p := by simpa using h.not_nul
    simpa using fun hc => hmem (hq.subset hc)
  not_empty := by simpa using hne
  short := by
    obtain ⟨behind, rfl⟩ := hq
    have hshort := h.short
    rw [Text.byteCount_append] at hshort
    exact Nat.lt_of_le_of_lt (Nat.le_add_right _ _) hshort

/-- From a directory, a step leads to the same place everywhere. -/
theorem step_eq_of_directory (hv : v.entryAt place = some .directory)
    (hw : w.entryAt place = some .directory) : v.step place s = w.step place s := by
  unfold step
  rw [hv, hw]

theorem step_of_isFiller (hs : isFiller s = true) :
    w.step place s = .ok next ↔ w.entryAt place = some .directory ∧ next = place := by
  constructor
  · intro h
    have hplace := entryAt_of_step h
    rw [step, hplace] at h
    simp only [hs, if_true] at h
    exact ⟨hplace, (Except.ok.inj h).symm⟩
  · rintro ⟨hplace, rfl⟩
    rw [step, hplace]
    exact if_pos hs

/-- A path up to a segment leads to a directory if its segments do. -/
theorem resolve_upTo (hsegments : AreSegments first later) (hfits : Fits (upTo first later))
    (hd : w.entryAt d = some .directory) : w.resolve (upTo first later) = .ok d
      ↔ (first :: later.reverse).foldlM w.step (if first.isEmpty then [] else w.home) = .ok d := by
  induction later with
  | nil =>
    by_cases hfirst : first = []
    · subst hfirst
      exact Iff.rfl
    · have hupTo := upTo_nil_of_ne hfirst
      have hslash := hsegments first List.mem_cons_self
      rw [hupTo] at hfits ⊢
      rw [resolve_of_fits hfits, segments_of_not_mem hslash, isAbsolute_of_not_mem hslash]
      simp [hfirst]
  | cons s later ih =>
    cases hs : isFiller s with
    | true =>
      rw [upTo_of_isFiller hs] at hfits ⊢
      rw [ih hsegments.tail hfits, List.reverse_cons, ← List.cons_append, foldlM_step_concat]
      constructor
      · intro h
        exact ⟨d, h, (step_of_isFiller hs).mpr ⟨hd, rfl⟩⟩
      · rintro ⟨d', h, hstep⟩
        obtain ⟨-, rfl⟩ := (step_of_isFiller hs).mp hstep
        exact h
    | false =>
      rw [resolve_of_fits hfits, segments_upTo hsegments hs, isAbsolute_upTo hsegments]

/-- A path up to a named segment leads where the step to this segment leads from the directory
above. -/
theorem resolve_upTo_cons (hsegments : AreSegments first (s :: later)) (hs : isFiller s = false)
    (hfits : Fits (upTo first (s :: later))) : w.resolve (upTo first (s :: later)) = .ok place
      ↔ ∃ d, w.resolve (upTo first later) = .ok d ∧ w.step d s = .ok place := by
  have habove := hfits.of_isPrefix (upTo_isPrefix hs) (upTo_ne_nil first later)
  rw [resolve_of_fits hfits, segments_upTo hsegments hs, isAbsolute_upTo hsegments,
    List.reverse_cons, ← List.cons_append, foldlM_step_concat]
  constructor
  · rintro ⟨d, hd, hstep⟩
    exact ⟨d, (resolve_upTo hsegments.tail habove (entryAt_of_step hstep)).mpr hd, hstep⟩
  · rintro ⟨d, hd, hstep⟩
    exact ⟨d, (resolve_upTo hsegments.tail habove (entryAt_of_step hstep)).mp hd, hstep⟩

namespace Beneath

/-- What stands in the way beneath is only that a directory is missing. -/
theorem step (h : Beneath v w) (hstep : w.step place s = .ok next) :
    v.step place s = .ok next ∨ v.step place s = .error .notFound := by
  have hw := entryAt_of_step hstep
  cases hv : v.entryAt place with
  | none =>
    right
    rw [Workspace.step, hv]
  | some entry =>
    cases entry with
    | file bytes =>
      obtain ⟨_, hfile⟩ := h.file place ⟨bytes, hv⟩
      cases hw.symm.trans hfile
    | directory =>
      left
      rw [step_eq_of_directory hv hw, hstep]

theorem foldlM_step (h : Beneath v w) (hsteps : segments.foldlM w.step start = .ok place) :
    segments.foldlM v.step start = .ok place ∨ segments.foldlM v.step start = .error .notFound := by
  induction segments generalizing start with
  | nil => exact .inl hsteps
  | cons s segments ih =>
    rw [List.foldlM_cons, bind_eq_ok] at hsteps
    obtain ⟨next, hstep, hrest⟩ := hsteps
    rw [List.foldlM_cons]
    rcases h.step hstep with hs | hs
    · rw [hs]
      exact ih hrest
    · rw [hs]
      exact .inr rfl

theorem resolve (h : Beneath v w) (hp : w.resolve p = .ok place) :
    v.resolve p = .ok place ∨ v.resolve p = .error .notFound := by
  obtain ⟨hfits, hsteps⟩ := resolve_eq_ok.mp hp
  rw [resolve_of_fits hfits, h.home]
  exact h.foldlM_step hsteps

/-! ## Directories -/

theorem entryAt_cases (h : Beneath v w) (hd : w.entryAt d = some .directory) :
    v.entryAt d = none ∨ v.entryAt d = some .directory := by
  cases hv : v.entryAt d with
  | none => exact .inl rfl
  | some entry =>
    cases entry with
    | directory => exact .inr rfl
    | file bytes =>
      obtain ⟨_, hfile⟩ := h.file d ⟨bytes, hv⟩
      cases hd.symm.trans hfile

end Beneath

end Paths

section Directories

variable {v v' w : Workspace} {p : Path} {d : Place} {first : Text} {later : List Text}

/-- Making a directory that may be there. -/
theorem run_ensureDirectory (p : Path) (v : Workspace) :
    (FileAccess.ensureDirectory p : StateM Workspace (Except FileFault Unit)).run v
      = match v.makeDirectory p with
        | .ok v' => (.ok (), v')
        | .error e => (if v.find? p = some .directory then .ok () else .error e, v) := by
  unfold FileAccess.ensureDirectory
  rw [StateT.run_bind]
  cases hmake : v.makeDirectory p with
  | ok v' =>
    have hrun : (FileAccess.makeDirectory p : StateM Workspace (Except FileFault Unit)).run v
        = (.ok (), v') := by
      change act (·.makeDirectory p) v = _
      simp only [act, hmake]
    rw [hrun]
    rfl
  | error e =>
    have hrun : (FileAccess.makeDirectory p : StateM Workspace (Except FileFault Unit)).run v
        = (.error e, v) := by
      change act (·.makeDirectory p) v = _
      simp only [act, hmake]
    have hthere : (FileAccess.isDirectory p : StateM Workspace Bool).run v
        = (decide (v.find? p = some .directory), v) := rfl
    rw [hrun]
    change ((FileAccess.isDirectory p >>= fun there =>
      if there then pure (.ok ()) else pure (.error e)
      : StateM Workspace (Except FileFault Unit)).run v) = _
    rw [StateT.run_bind, hthere]
    by_cases hfind : v.find? p = some .directory
    · rw [decide_eq_true hfind]
      exact (congrArg (Prod.mk · v) (if_pos hfind)).symm
    · rw [decide_eq_false hfind]
      exact (congrArg (Prod.mk · v) (if_neg hfind)).symm

/-- A directory that is there is left as it is. -/
theorem run_ensureDirectory_of_directory (hp : v.resolve p = .ok d)
    (hd : v.entryAt d = some .directory) (hslash : dropTrailingSlashes p = p) :
    (FileAccess.ensureDirectory p : StateM Workspace (Except FileFault Unit)).run v
      = (.ok (), v) := by
  have hfind : v.find? p = some .directory := by
    rw [find?, hp]
    exact hd
  rw [run_ensureDirectory, makeDirectory, hslash, hp]
  dsimp only
  rw [hd]
  exact congrArg (Prod.mk · v) (if_pos hfind)

theorem run_makeNested_of_ok {above : List Path} (hp : p ≠ [])
    (h : (FileAccess.ensureDirectory p : StateM Workspace (Except FileFault Unit)).run v
      = (.ok (), v')) :
    (FileAccess.makeNested (p :: above) : StateM Workspace (Except FileFault Unit)).run v
      = (.ok (), v') := by
  unfold FileAccess.makeNested
  rw [if_neg (by simpa using hp), StateT.run_bind, h]
  rfl

theorem run_makeNested_of_notFound {above : List Path} {v₁ : Workspace} (hp : p ≠ [])
    (h : (FileAccess.ensureDirectory p : StateM Workspace (Except FileFault Unit)).run v
      = (.error .notFound, v))
    (habove : (FileAccess.makeNested above : StateM Workspace (Except FileFault Unit)).run v
      = (.ok (), v₁)) :
    (FileAccess.makeNested (p :: above) : StateM Workspace (Except FileFault Unit)).run v
      = (FileAccess.ensureDirectory p : StateM Workspace (Except FileFault Unit)).run v₁ := by
  rw [FileAccess.makeNested, if_neg (by simpa using hp), StateT.run_bind, h]
  change ((FileAccess.makeNested above >>= _ : StateM Workspace (Except FileFault Unit)).run v) = _
  rw [StateT.run_bind, habove]
  rfl

namespace Beneath

/-- A directory that is in the larger workspace is made or is there, if its path leads
somewhere. -/
theorem ensureDirectory (h : Beneath v w) (hd : w.entryAt d = some .directory)
    (hp : v.resolve p = .ok d) (hslash : dropTrailingSlashes p = p) :
    ∃ v', (FileAccess.ensureDirectory p : StateM Workspace (Except FileFault Unit)).run v
        = (.ok (), v')
      ∧ Beneath v' w ∧ v'.resolve p = .ok d ∧ v'.entryAt d = some .directory := by
  rcases h.entryAt_cases hd with hnone | hthere
  · rw [run_ensureDirectory]
    unfold makeDirectory
    rw [hslash, hp]
    dsimp only
    have hput (other : Place) : (v.put d .directory).entryAt other
        = if other = d then some .directory else v.entryAt other :=
      entryAt_put_of_ne_directory (by simp [hnone]) _ other
    have hmade : v.makeDirectory p = .ok (v.put d .directory) := by
      rw [makeDirectory, hslash, hp]
      dsimp only
      rw [hnone]
    have hextends := makeDirectory_extends hmade
    rw [hnone]
    refine ⟨v.put d .directory, rfl, ⟨h.home, ?_, ?_, ?_⟩, hextends.resolve hp, ?_⟩
    · exact hextends.directory h.start
    · intro place hplace
      rw [hput] at hplace
      split at hplace
      · next heq => exact heq ▸ hd
      · exact h.directory place hplace
    · rintro place ⟨bytes, hbytes⟩
      rw [hput] at hbytes
      split at hbytes
      · cases hbytes
      · exact h.file place ⟨bytes, hbytes⟩
    · rw [hput, if_pos rfl]
  · exact ⟨v, run_ensureDirectory_of_directory hp hthere hslash, h, hp, hthere⟩

/-- Making a directory fails if its path leads nowhere yet. -/
theorem run_ensureDirectory_of_notFound (hp : v.resolve p = .error .notFound)
    (hslash : dropTrailingSlashes p = p) :
    (FileAccess.ensureDirectory p : StateM Workspace (Except FileFault Unit)).run v
      = (.error .notFound, v) := by
  have hfind : ¬ v.find? p = some .directory := by
    rw [find?, hp]
    nofun
  rw [run_ensureDirectory, makeDirectory, hslash, hp]
  exact congrArg (Prod.mk · v) (if_neg hfind)

/-- A path of one segment leads somewhere. -/
theorem resolve_upTo_nil (h : Beneath v w) (hsegments : AreSegments first [])
    (hp : w.resolve (upTo first []) = .ok d) : v.resolve (upTo first []) = .ok d := by
  by_cases hfirst : first = []
  · subst hfirst
    exact hp
  · have hslash := hsegments first List.mem_cons_self
    rw [upTo_nil_of_ne hfirst] at hp ⊢
    obtain ⟨hfits, hstep⟩ := resolve_eq_ok.mp hp
    rw [segments_of_not_mem hslash, isAbsolute_of_not_mem hslash, if_neg Bool.false_ne_true,
      List.foldlM_cons, ← h.home] at hstep
    rw [resolve_of_fits hfits, segments_of_not_mem hslash, isAbsolute_of_not_mem hslash,
      if_neg Bool.false_ne_true, List.foldlM_cons, step_eq_of_directory h.start
        (h.directory _ h.start)]
    exact hstep

/-- A directory of the larger workspace can be made with all directories above it. -/
theorem makeNested (h : Beneath v w) (hsegments : AreSegments first later)
    (hfits : Fits (upTo first later)) (hp : w.resolve (upTo first later) = .ok d)
    (hd : w.entryAt d = some .directory) :
    ∃ v', (FileAccess.makeNested (upTo first later :: aboveReversed first later)
        : StateM Workspace (Except FileFault Unit)).run v = (.ok (), v')
      ∧ Beneath v' w ∧ v'.resolve (upTo first later) = .ok d
      ∧ v'.entryAt d = some .directory := by
  have hne := upTo_ne_nil first later
  have hslash := dropTrailingSlashes_upTo hsegments
  induction later generalizing v d with
  | nil =>
    obtain ⟨v', hrun, hmade⟩ := h.ensureDirectory hd (h.resolve_upTo_nil hsegments hp) hslash
    exact ⟨v', run_makeNested_of_ok hne hrun, hmade⟩
  | cons s later ih =>
    cases hs : isFiller s with
    | true =>
      rw [upTo_of_isFiller hs] at hfits hp hne hslash ⊢
      rw [aboveReversed, if_pos hs]
      exact ih h hsegments.tail hfits hp hd hne hslash
    | false =>
      rcases h.resolve hp with hv | hv
      · obtain ⟨v', hrun, hmade⟩ := h.ensureDirectory hd hv hslash
        exact ⟨v', run_makeNested_of_ok hne hrun, hmade⟩
      -- the directory above is made first, and then the path leads somewhere
      have hfits' := hfits.of_isPrefix (upTo_isPrefix hs) (upTo_ne_nil first later)
      obtain ⟨d', hd', hstep⟩ := (resolve_upTo_cons hsegments hs hfits).mp hp
      have hdirectory := entryAt_of_step hstep
      obtain ⟨v₁, habove, h₁, hp₁, hd₁⟩ := ih h hsegments.tail hfits' hd' hdirectory
        (upTo_ne_nil first later) (dropTrailingSlashes_upTo hsegments.tail)
      have hleads : v₁.resolve (upTo first (s :: later)) = .ok d := by
        apply (resolve_upTo_cons hsegments hs hfits).mpr
        refine ⟨d', hp₁, ?_⟩
        rw [step_eq_of_directory hd₁ hdirectory, hstep]
      obtain ⟨v', hrun, hmade⟩ := h₁.ensureDirectory hd hleads hslash
      refine ⟨v', ?_, hmade⟩
      rw [aboveReversed, hs, if_neg Bool.false_ne_true, ← hrun]
      exact run_makeNested_of_notFound hne (run_ensureDirectory_of_notFound hv hslash) habove

end Beneath

end Directories

/-! ## Files -/

section Files

variable {v w : Workspace} {p : Path} {place : Place} {o : Output} {os : List Output}

/-- A path that leads to a file is a name, or the path up to a named segment. -/
theorem exists_upTo_of_hasFile (hp : w.resolve p = .ok place) (hfile : w.HasFile place) :
    ∃ first later, AreSegments first later ∧ p = upTo first later
      ∧ (later = [] ∧ first ≠ [] ∨ ∃ s rest, later = s :: rest ∧ isFiller s = false) := by
  obtain ⟨hfits, hsteps⟩ := resolve_eq_ok.mp hp
  obtain ⟨first, later, hsegments⟩ := exists_segments_eq_cons p
  have hjoin : Text.join ['/'] (segments p) = p := Text.join_splitOn '/' p
  have hare := areSegments_of_segments hsegments
  rw [hsegments] at hjoin hsteps
  rw [← List.reverse_reverse later] at hjoin hsteps
  generalize later.reverse = later at hjoin hsteps hare
  refine ⟨first, later, hare, ?_⟩
  cases later with
  | nil =>
    have hfirst : first ≠ [] := by
      rintro rfl
      have hempty := hfits.not_empty
      rw [← hjoin] at hempty
      contradiction
    refine ⟨?_, .inl ⟨rfl, hfirst⟩⟩
    rw [upTo_nil_of_ne hfirst, ← hjoin]
    rfl
  | cons s rest =>
    have hs : isFiller s = false := by
      rw [Bool.eq_false_iff]
      intro hs
      rw [List.reverse_cons, ← List.cons_append, foldlM_step_concat] at hsteps
      obtain ⟨d, -, hstep⟩ := hsteps
      obtain ⟨hd, rfl⟩ := (step_of_isFiller hs).mp hstep
      obtain ⟨_, hbytes⟩ := hfile
      cases hd.symm.trans hbytes
    exact ⟨by rw [upTo_of_not_isFiller hs, hjoin], .inr ⟨s, rest, rfl, hs⟩⟩

namespace Beneath

/-- The directories above a file of the larger workspace can be made, and then its path leads
to the place of that file. -/
theorem makeAbove (h : Beneath v w) (hp : w.resolve p = .ok place) (hfile : w.HasFile place) :
    (∀ dir, p.parent? = some dir →
      (FileAccess.makeDirectories dir : StateM Workspace (Except FileFault Unit)).run v
        = (.ok (), v.makeAbove p))
    ∧ Beneath (v.makeAbove p) w ∧ (v.makeAbove p).resolve p = .ok place := by
  obtain ⟨hfits, -⟩ := resolve_eq_ok.mp hp
  obtain ⟨first, later, hsegments, rfl, ⟨rfl, hfirst⟩ | ⟨s, rest, rfl, hs⟩⟩ :=
    exists_upTo_of_hasFile hp hfile
  · have hparent : parent? (upTo first []) = some [] := by
      rw [parent?, above_upTo hsegments, aboveReversed, if_neg (by simpa using hfirst)]
      rfl
    have hmade : v.makeAbove (upTo first []) = v := by
      rw [Workspace.makeAbove, hparent]
      rfl
    rw [hparent, hmade]
    refine ⟨?_, h, h.resolve_upTo_nil hsegments hp⟩
    rintro dir ⟨⟩
    rfl
  · have hparent : parent? (upTo first (s :: rest)) = some (upTo first rest) := by
      rw [parent?, above_upTo hsegments, aboveReversed, hs, if_neg Bool.false_ne_true]
      rfl
    obtain ⟨d, hd, hstep⟩ := (resolve_upTo_cons hsegments hs hfits).mp hp
    have hdirectory := entryAt_of_step hstep
    obtain ⟨v', hrun, h', hp', hd'⟩ := h.makeNested hsegments.tail
      (hfits.of_isPrefix (upTo_isPrefix hs) (upTo_ne_nil first rest)) hd hdirectory
    rw [← above_upTo hsegments.tail, ← FileAccess.makeDirectories] at hrun
    have hmade : v.makeAbove (upTo first (s :: rest)) = v' := by
      rw [Workspace.makeAbove, hparent]
      dsimp only
      rw [hrun]
    rw [hparent, hmade]
    refine ⟨?_, h', ?_⟩
    · rintro dir ⟨⟩
      exact hrun
    · apply (resolve_upTo_cons hsegments hs hfits).mpr
      refine ⟨d, hp', ?_⟩
      rw [step_eq_of_directory hd' hdirectory, hstep]

theorem ne_directory (h : Beneath v w) (hfile : w.HasFile place) :
    v.entryAt place ≠ some .directory := by
  intro hd
  obtain ⟨_, hbytes⟩ := hfile
  cases (h.directory place hd).symm.trans hbytes

/-- A file of the larger workspace may be in the smaller one too, with any bytes. -/
theorem put (h : Beneath v w) (hfile : w.HasFile place) (bytes : ByteArray) :
    Beneath (v.put place (.file bytes)) w := by
  have hne := h.ne_directory hfile
  have hput (other : Place) : (v.put place (.file bytes)).entryAt other
      = if other = place then some (.file bytes) else v.entryAt other :=
    entryAt_put_of_ne_directory hne _ other
  refine ⟨h.home, ?_, ?_, ?_⟩
  · exact (put_extends hne bytes).directory h.start
  · intro other hother
    rw [hput] at hother
    split at hother
    · cases hother
    · exact h.directory other hother
  · rintro other ⟨bytes', hbytes'⟩
    rw [hput] at hbytes'
    split at hbytes'
    · next heq => exact heq ▸ hfile
    · exact h.file other ⟨bytes', hbytes'⟩

/-- A file that is in the larger workspace can be written. -/
theorem writeBytes (h : Beneath v w) (hp : v.resolve p = .ok place) (hfile : w.HasFile place)
    (bytes : ByteArray) : ∃ v', v.writeBytes p bytes = .ok v' :=
  ⟨_, writeBytes_eq_ok.mpr ⟨place, hp, h.ne_directory hfile, rfl⟩⟩

/-- A file of the larger workspace, when it is written, is beneath that workspace. -/
theorem write [GoFormatter] (h : Beneath v w) (hp : w.resolve o.path = .ok place)
    (hfile : w.HasFile place) : Beneath (v.write o) w := by
  obtain ⟨-, habove, hplace⟩ := h.makeAbove hp hfile
  rw [write_eq_put hplace (habove.ne_directory hfile)]
  exact habove.put hfile o.bytes

end Beneath

/-- There is a file where a path leads. -/
def Holds (w : Workspace) (p : Path) : Prop := (w.readBytes p).isOk = true

instance (w : Workspace) (p : Path) : Decidable (w.Holds p) := inferInstanceAs (Decidable (_ = _))

theorem holds_iff : w.Holds p ↔ ∃ place, w.resolve p = .ok place ∧ w.HasFile place := by
  unfold Holds
  constructor
  · intro h
    cases hbytes : w.readBytes p with
    | error e =>
      rw [hbytes] at h
      contradiction
    | ok bytes =>
      obtain ⟨place, hplace, hentry⟩ := readBytes_eq_ok.mp hbytes
      exact ⟨place, hplace, bytes, hentry⟩
  · rintro ⟨place, hplace, bytes, hentry⟩
    rw [readBytes_eq_ok.mpr ⟨place, hplace, hentry⟩]
    rfl

/-- A path that was written leads to a file. -/
theorem WroteAll.holds [GoFormatter] (h : WroteAll os v w) (ho : o ∈ os) : w.Holds o.path := by
  rw [holds_iff]
  induction h with
  | nil => cases ho
  | cons ho' hos ih =>
    cases ho with
    | head => exact ⟨_, hos.others.resolve ho'.resolve, hos.others.hasFile ⟨_, ho'.entryAt⟩⟩
    | tail _ ho => exact ih ho

end Files

end TableScaffold.Workspace
