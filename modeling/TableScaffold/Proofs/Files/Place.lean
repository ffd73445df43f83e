import TableScaffold.Files.Workspace
import TableScaffold.Proofs.Result
import TableScaffold.Proofs.Text.Rows

set_option autoImplicit false

/-!
# Where paths lead

A path to a name in a directory has the components of the directory and that name
(`components_join`), and leads one step below the place of the directory
(`resolve_join_eq_ok`).
-/

namespace TableScaffold

namespace Path

/-! ## Segments -/

/-- A segment that leads one step down. -/
structure IsName (name : Text) : Prop where
  not_slash : '/' ∉ name
  not_filler : isFiller name = false
  not_parent : name ≠ ['.', '.']

/-- What ends in another character than a dot leads down. -/
theorem isName_of_getLast? {name : Text} {c : Char} (hlast : name.getLast? = some c) (hc : c ≠ '.')
    (hslash : '/' ∉ name) : IsName name where
  not_slash := hslash
  not_filler := by
    unfold isFiller
    rw [Bool.or_eq_false_iff]
    constructor
    · cases name <;> simp_all
    · refine decide_eq_false fun h => hc ?_
      simpa [h] using hlast.symm
  not_parent h := hc (by simpa [h] using hlast.symm)

theorem segments_of_not_mem {name : Text} (h : '/' ∉ name) : segments name = [name] := by
  refine Text.splitBy_of_forall fun c hc => ?_
  simpa using fun heq : c = '/' => h (heq ▸ hc)

theorem not_mem_of_mem_segments {p : Path} {segment : Text} (h : segment ∈ segments p) :
    '/' ∉ segment := fun hslash => by
  simpa using Text.eq_false_of_mem_splitBy h '/' hslash

theorem segments_cons_slash (p : Path) : segments ('/' :: p) = [] :: segments p := by
  simp [segments, Text.splitOn, Text.splitBy]

theorem exists_segments_eq_cons (p : Path) : ∃ first later, segments p = first :: later :=
  List.exists_cons_of_ne_nil (Text.splitBy_ne_nil _ p)

theorem exists_segments_eq_concat (p : Path) : ∃ above last, segments p = above ++ [last] :=
  ⟨_, _, (List.dropLast_concat_getLast (Text.splitBy_ne_nil _ p)).symm⟩

theorem segments_append {p t last first : Text} {above below : List Text}
    (hp : segments p = above ++ [last]) (ht : segments t = first :: below) :
    segments (p ++ t) = above ++ (last ++ first) :: below :=
  Text.splitBy_append hp ht

theorem segments_append_slash (p name : Path) :
    segments (p ++ '/' :: name) = segments p ++ segments name := by
  obtain ⟨above, last, hp⟩ := exists_segments_eq_concat p
  rw [segments_append hp (segments_cons_slash name), hp, List.append_nil, List.append_assoc,
    List.singleton_append]

/-- The last segment of a path ends as the path does. -/
theorem exists_segments_getLast? {p : Path} {c : Char} (hlast : p.getLast? = some c)
    (hc : c ≠ '/') :
    ∃ above last, segments p = above ++ [last] ∧ last.getLast? = some c := by
  obtain ⟨front, rfl⟩ := List.getLast?_eq_some_iff.mp hlast
  obtain ⟨above, last, hp⟩ := exists_segments_eq_concat front
  refine ⟨above, last ++ [c], ?_, List.getLast?_concat⟩
  exact segments_append hp (segments_of_not_mem (by simpa using hc.symm))

/-! ## A path in a directory -/

theorem isAbsolute_of_not_mem {name : Text} (h : '/' ∉ name) : isAbsolute name = false := by
  refine decide_eq_false fun hhead => h (List.mem_of_mem_head? ?_)
  exact hhead

/-- A relative path in a directory stands as written, or with a slash between the two. -/
theorem join_of_relative {dir p : Path} (h : isAbsolute p = false) : join dir p
    = if dir.isEmpty || dir.getLast? = some '/' then dir ++ p else dir ++ '/' :: p := by
  rw [join, h, if_neg Bool.false_ne_true]

theorem isAbsolute_join {dir p : Path} (h : isAbsolute p = false) :
    isAbsolute (join dir p) = isAbsolute dir := by
  rw [join_of_relative h]
  cases dir with
  | nil => exact h
  | cons c dir => split <;> rfl

/-- A joined path ends as what was joined does. -/
theorem getLast?_join {dir name : Path} {c : Char} (h : name.getLast? = some c) :
    (join dir name).getLast? = some c := by
  obtain ⟨front, rfl⟩ := List.getLast?_eq_some_iff.mp h
  unfold join
  split
  · exact h
  split
  · rw [← List.append_assoc, List.getLast?_concat]
  · rw [← List.cons_append, ← List.append_assoc, List.getLast?_concat]

/-- The segments in front of a name in a directory. -/
def stepsInto (dir : Path) : List Text :=
  if dir.isEmpty || dir.getLast? = some '/' then (segments dir).dropLast else segments dir

theorem segments_join (dir : Path) {p : Path} (h : isAbsolute p = false) :
    segments (join dir p) = stepsInto dir ++ segments p := by
  unfold stepsInto
  rw [join_of_relative h]
  by_cases hdir : dir = []
  · rw [hdir]
    rfl
  by_cases hlast : dir.getLast? = some '/'
  · obtain ⟨front, rfl⟩ := List.getLast?_eq_some_iff.mp hlast
    rw [if_pos (by simp), if_pos (by simp), List.append_assoc, List.singleton_append,
      segments_append_slash, segments_append_slash, segments_of_not_mem List.not_mem_nil,
      List.dropLast_concat]
  · rw [if_neg (by simp [hdir, hlast]), if_neg (by simp [hdir, hlast]), segments_append_slash]

/-- The segments of a path that lead somewhere. -/
def steps (p : Path) : List Text := (segments p).filter (!isFiller ·)

/-- The segments in front of a name in a directory are those of the directory, but for one
that leads nowhere. -/
theorem exists_stepsInto_eq {dir : Path} (hdir : dir ≠ []) : ∃ first later later',
    segments dir = first :: later ∧ stepsInto dir = first :: later'
      ∧ later'.filter (!isFiller ·) = later.filter (!isFiller ·) := by
  unfold stepsInto
  by_cases hlast : dir.getLast? = some '/'
  · obtain ⟨front, rfl⟩ := List.getLast?_eq_some_iff.mp hlast
    obtain ⟨first, later, hfront⟩ := exists_segments_eq_cons front
    refine ⟨first, later ++ [[]], later, ?_, ?_, ?_⟩
    · rw [segments_append_slash, hfront, segments_of_not_mem List.not_mem_nil, List.cons_append]
    · rw [if_pos (by simp), segments_append_slash, segments_of_not_mem List.not_mem_nil,
        List.dropLast_concat, hfront]
    · rw [List.filter_append]
      exact (List.append_nil _).symm
  · obtain ⟨first, later, hsegments⟩ := exists_segments_eq_cons dir
    refine ⟨first, later, later, hsegments, ?_, rfl⟩
    rw [if_neg (by simp [hdir, hlast]), hsegments]

theorem filter_stepsInto (dir : Path) : (stepsInto dir).filter (!isFiller ·) = steps dir := by
  by_cases hdir : dir = []
  · rw [hdir]
    rfl
  · obtain ⟨first, later, later', hsegments, hinto, hlater⟩ := exists_stepsInto_eq hdir
    rw [steps, hsegments, hinto, List.filter_cons, List.filter_cons, hlater]

theorem components_eq {p : Path} {first : Text} {later : List Text}
    (h : segments p = first :: later) :
    components p = Component.ofFirst (isAbsolute p) first
      ++ (later.filter (!isFiller ·)).map Component.ofSegment := by
  rw [components, h]

/-- A relative path adds its steps to a directory. -/
theorem components_join_relative {dir p : Path} (hdir : dir ≠ []) (hp : isAbsolute p = false) :
    components (join dir p) = components dir ++ (steps p).map Component.ofSegment := by
  obtain ⟨first, later, later', hsegments, hinto, hlater⟩ := exists_stepsInto_eq hdir
  have hjoin : segments (join dir p) = first :: (later' ++ segments p) := by
    rw [segments_join dir hp, hinto, List.cons_append]
  rw [components_eq hjoin, components_eq hsegments, isAbsolute_join hp, List.filter_append, hlater,
    List.map_append, List.append_assoc, steps]

/-- A path to a name in a directory has one component more than the directory. -/
theorem components_join (dir : Path) {name : Text} (h : IsName name) :
    components (join dir name) = components dir ++ [.name name] := by
  have hrelative := isAbsolute_of_not_mem h.not_slash
  have hname : Component.ofSegment name = .name name := if_neg h.not_parent
  by_cases hdir : dir = []
  · obtain ⟨hne, hdot⟩ := Bool.or_eq_false_iff.mp h.not_filler
    have hjoin : join dir name = name := by
      rw [join_of_relative hrelative, hdir]
      rfl
    rw [hjoin, components_eq (segments_of_not_mem h.not_slash), Component.ofFirst,
      if_neg (Bool.eq_false_iff.mp hne), if_neg (of_decide_eq_false hdot), hname, hdir]
    rfl
  · have hsteps : steps name = [name] := by
      rw [steps, segments_of_not_mem h.not_slash]
      simp [h.not_filler]
    rw [components_join_relative hdir hrelative, hsteps, List.map_singleton, hname]

end Path

namespace Workspace

variable {w : Workspace} {p dir : Path} {place : Place} {name : Text}

/-- A path that is not refused for its spelling. -/
structure Fits (p : Path) : Prop where
  not_nul : p.contains '\x00' = false
  not_empty : p.isEmpty = false
  short : Text.byteCount p < maxPathBytes

theorem resolve_eq_ok : w.resolve p = .ok place
    ↔ Fits p ∧ (Path.segments p).foldlM w.step (if p.isAbsolute then [] else w.home)
      = .ok place := by
  unfold resolve
  split
  · next h => exact ⟨nofun, fun h' => absurd h (Bool.eq_false_iff.mp h'.1.not_nul)⟩
  split
  · next h => exact ⟨nofun, fun h' => absurd h (Bool.eq_false_iff.mp h'.1.not_empty)⟩
  split
  · next h => exact ⟨nofun, fun h' => absurd h (Nat.not_le.mpr h'.1.short)⟩
  · next h₁ h₂ h₃ =>
    exact ⟨fun h => ⟨⟨by simpa using h₁, by simpa using h₂, Nat.not_le.mp h₃⟩, h⟩, fun h => h.2⟩

theorem entryAt_of_step {segment : Text} {next : Place} (h : w.step place segment = .ok next) :
    w.entryAt place = some .directory := by
  unfold step at h
  split at h
  · cases h
  · cases h
  · assumption

/-- A name leads from a directory to a place below it. -/
theorem step_name {next : Place} (hname : Path.IsName name) :
    w.step place name = .ok next ↔ w.entryAt place = some .directory
      ∧ Text.byteCount name ≤ maxNameBytes ∧ next = place ++ [name] := by
  unfold step
  split
  · next h => simp [h]
  · next h => simp [h]
  · next h =>
    rw [if_neg (Bool.eq_false_iff.mp hname.not_filler), if_neg hname.not_parent]
    split
    · next hlong => simp [Nat.not_le.mpr hlong]
    · next hlong => simp [h, Nat.not_lt.mp hlong, eq_comm]

/-- The last step of a path starts from the place that the steps before it lead to. -/
theorem foldlM_step_concat {start : Place} {above : List Text} {last : Text} :
    (above ++ [last]).foldlM w.step start = .ok place
      ↔ ∃ d, above.foldlM w.step start = .ok d ∧ w.step d last = .ok place := by
  have hlast (d : Place) : [last].foldlM w.step d = w.step d last := by
    rw [List.foldlM_cons]
    cases w.step d last <;> rfl
  simp only [List.foldlM_append, bind_eq_ok, hlast]

/-- A path that ends as a name does leads to a name that ends so. -/
theorem exists_name_of_resolve {c : Char} (hlast : p.getLast? = some c) (hslash : c ≠ '/')
    (hdot : c ≠ '.') (h : w.resolve p = .ok place) :
    ∃ above name, place = above ++ [name] ∧ name.getLast? = some c := by
  obtain ⟨above, last, hsegments, hend⟩ := Path.exists_segments_getLast? hlast hslash
  have hname : Path.IsName last := by
    refine Path.isName_of_getLast? hend hdot (Path.not_mem_of_mem_segments (p := p) ?_)
    rw [hsegments]
    exact List.mem_append_right _ List.mem_cons_self
  obtain ⟨-, h⟩ := resolve_eq_ok.mp h
  rw [hsegments] at h
  obtain ⟨d, -, hstep⟩ := foldlM_step_concat.mp h
  obtain ⟨-, -, rfl⟩ := (step_name hname).mp hstep
  exact ⟨d, last, rfl, hend⟩

/-- The place from which the names in a directory are looked up. -/
def resolveInto (w : Workspace) (dir : Path) : Except FileFault Place :=
  (Path.stepsInto dir).foldlM w.step (if dir.isAbsolute then [] else w.home)

/-- A path to a name in a directory leads one step below the place of the directory. -/
theorem resolve_join_eq_ok (hname : Path.IsName name) :
    w.resolve (Path.join dir name) = .ok place
      ↔ Fits (Path.join dir name) ∧ Text.byteCount name ≤ maxNameBytes
        ∧ ∃ d, w.resolveInto dir = .ok d ∧ w.entryAt d = some .directory ∧ place = d ++ [name] := by
  have hrelative := Path.isAbsolute_of_not_mem hname.not_slash
  rw [resolve_eq_ok, Path.segments_join dir hrelative, Path.isAbsolute_join hrelative,
    Path.segments_of_not_mem hname.not_slash, foldlM_step_concat]
  constructor
  · rintro ⟨hfits, d, hd, hstep⟩
    obtain ⟨hdir, hshort, rfl⟩ := (step_name hname).mp hstep
    exact ⟨hfits, hshort, d, hd, hdir, rfl⟩
  · rintro ⟨hfits, hshort, d, hd, hdir, rfl⟩
    exact ⟨hfits, d, hd, (step_name hname).mpr ⟨hdir, hshort, rfl⟩⟩

end Workspace

end TableScaffold
