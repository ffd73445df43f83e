import TableScaffold.Text.Blank

set_option autoImplicit false

/-!
# Rows

A text whose rows all hold something is not changed by dropping its empty rows
(`dropBlankRows_join`), and a text that neither begins nor ends with white space
is not changed by trimming it (`trim_eq_self`).
-/

namespace TableScaffold.Text

/-! ## Cutting and joining -/

theorem splitBy_of_forall {sep : Char → Bool} {t : Text} (h : ∀ c ∈ t, sep c = false) :
    splitBy sep t = [t] := by
  induction t with
  | nil => rfl
  | cons c t ih =>
    rw [List.forall_mem_cons] at h
    rw [splitBy, ih h.2]
    simp [h.1]

theorem splitBy_congr {p q : Char → Bool} {t : Text} (h : ∀ c ∈ t, p c = q c) :
    splitBy p t = splitBy q t := by
  induction t with
  | nil => rfl
  | cons c t ih =>
    rw [List.forall_mem_cons] at h
    rw [splitBy, splitBy, h.1, ih h.2]

theorem splitBy_map (sep : Char → Bool) (f : Char → Char) (t : Text) :
    splitBy sep (t.map f) = (splitBy (fun c => sep (f c)) t).map (List.map f) := by
  induction t with
  | nil => rfl
  | cons c t ih =>
    rw [List.map_cons, splitBy, splitBy, ih]
    split
    · rfl
    · cases hs : splitBy (fun c => sep (f c)) t with
      | nil => exact absurd hs (splitBy_ne_nil _ t)
      | cons p ps => rfl

theorem join_map (f : Char → Char) (sep : Text) (ps : List Text) :
    join (sep.map f) (ps.map (List.map f)) = (join sep ps).map f := by
  fun_induction join sep ps with
  | case1 => rfl
  | case2 => rfl
  | case3 p q ps ih =>
    rw [List.map_append, List.map_append, ← ih]
    rfl

/-- A separator stands between pieces. -/
theorem splitBy_append_separator {sep : Char → Bool} {c : Char} (hc : sep c = true) (p t : Text) :
    splitBy sep (p ++ c :: t) = splitBy sep p ++ splitBy sep t := by
  induction p with
  | nil => simp [splitBy, hc]
  | cons e p ih =>
    rw [List.cons_append, splitBy, splitBy, ih]
    split
    · rfl
    · cases hs : splitBy sep p with
      | nil => exact absurd hs (splitBy_ne_nil sep p)
      | cons q qs => rfl

theorem splitBy_append_cons {sep : Char → Bool} {p : Text} (hp : ∀ c ∈ p, sep c = false)
    {c : Char} (hc : sep c = true) (t : Text) :
    splitBy sep (p ++ c :: t) = p :: splitBy sep t := by
  rw [splitBy_append_separator hc, splitBy_of_forall hp, List.singleton_append]

/-- The pieces hold all characters but the separators. -/
theorem flatten_splitBy (sep : Char → Bool) (t : Text) :
    (splitBy sep t).flatten = t.filter (!sep ·) := by
  induction t with
  | nil => rfl
  | cons c t ih =>
    rw [splitBy]
    split
    · next hc => simp [hc, ih]
    · next hc =>
      cases hs : splitBy sep t with
      | nil => exact absurd hs (splitBy_ne_nil sep t)
      | cons q qs =>
        rw [hs] at ih
        simp [hc, ← ih]

/-- What a piece holds stands in the text and is no separator. -/
theorem mem_of_mem_splitBy {sep : Char → Bool} {t piece : Text} (h : piece ∈ splitBy sep t)
    {c : Char} (hc : c ∈ piece) : c ∈ t ∧ sep c = false := by
  induction t generalizing piece with
  | nil =>
    rw [splitBy, List.mem_singleton] at h
    rw [h] at hc
    cases hc
  | cons e t ih =>
    have hbehind {other : Text} (hother : other ∈ splitBy sep t) (hmem : c ∈ other) :
        c ∈ e :: t ∧ sep c = false :=
      (ih hother hmem).imp_left (.tail e)
    rw [splitBy] at h
    split at h
    · cases h with
      | head => cases hc
      | tail _ h => exact hbehind h hc
    · next he =>
      cases hs : splitBy sep t with
      | nil => exact absurd hs (splitBy_ne_nil sep t)
      | cons q qs =>
        rw [hs] at h hbehind
        cases h with
        | head =>
          cases hc with
          | head => exact ⟨.head t, Bool.eq_false_iff.mpr he⟩
          | tail _ hc => exact hbehind (.head qs) hc
        | tail _ h => exact hbehind (.tail q h) hc

/-- No piece holds a separator. -/
theorem eq_false_of_mem_splitBy {sep : Char → Bool} {t piece : Text} (h : piece ∈ splitBy sep t) :
    ∀ c ∈ piece, sep c = false := fun _ hc => (mem_of_mem_splitBy h hc).2

theorem not_mem_of_mem_splitOn {sep : Char} {t piece : Text} (h : piece ∈ splitOn sep t) :
    sep ∉ piece := by
  intro hmem
  have hsep := eq_false_of_mem_splitBy h sep hmem
  rw [beq_self_eq_true] at hsep
  cases hsep

/-- Where two texts meet, the last piece of one and the first piece of the other
become one piece. -/
theorem splitBy_append {sep : Char → Bool} {p t last first : Text} {ps ts : List Text}
    (hp : splitBy sep p = ps ++ [last]) (ht : splitBy sep t = first :: ts) :
    splitBy sep (p ++ t) = ps ++ (last ++ first) :: ts := by
  induction p generalizing ps last with
  | nil =>
    obtain ⟨rfl, rfl⟩ : ps = [] ∧ last = [] := by
      cases ps <;> simp_all [splitBy]
    exact ht
  | cons c p ih =>
    rw [List.cons_append, splitBy]
    rw [splitBy] at hp
    split at hp
    · next hc =>
      -- the piece in front of `c` is one of `ps`, for there is a piece behind `c`
      cases ps with
      | nil => simp [splitBy_ne_nil] at hp
      | cons q ps =>
        obtain ⟨rfl, hrest⟩ := List.cons.inj hp
        rw [if_pos hc, ih hrest, List.cons_append]
    · next hc =>
      cases hs : splitBy sep p with
      | nil => exact absurd hs (splitBy_ne_nil sep p)
      | cons q qs =>
        rw [hs] at hp
        rw [if_neg hc]
        cases ps with
        | nil =>
          obtain ⟨rfl, rfl⟩ : c :: q = last ∧ qs = [] := by simpa using hp
          rw [ih (show splitBy sep p = [] ++ [q] from hs)]
          rfl
        | cons q' ps =>
          obtain ⟨rfl, rfl⟩ : c :: q = q' ∧ qs = ps ++ [last] := by simpa using hp
          rw [ih (show splitBy sep p = (q :: ps) ++ [last] from hs)]
          rfl

theorem join_append {sep : Text} {ps qs : List Text} (hp : ps ≠ []) (hq : qs ≠ []) :
    join sep (ps ++ qs) = join sep ps ++ sep ++ join sep qs := by
  induction ps with
  | nil => exact absurd rfl hp
  | cons p ps ih =>
    cases ps with
    | nil =>
      obtain ⟨q, qs, rfl⟩ := List.exists_cons_of_ne_nil hq
      rfl
    | cons p' ps =>
      simp only [List.cons_append, join_cons_cons, List.append_assoc] at ih ⊢
      rw [ih (List.cons_ne_nil _ _)]

theorem join_cons {sep p : Text} {rows : List Text} (hne : rows ≠ []) :
    join sep (p :: rows) = p ++ sep ++ join sep rows :=
  join_append (List.cons_ne_nil p []) hne

/-- A character of a joined text is one of a part or of the separator. -/
theorem mem_join {sep : Text} {rows : List Text} {c : Char} (h : c ∈ join sep rows) :
    c ∈ sep ∨ ∃ row ∈ rows, c ∈ row := by
  induction rows with
  | nil => cases h
  | cons row rows ih =>
    cases rows with
    | nil => exact .inr ⟨row, .head _, h⟩
    | cons row' rows =>
      rw [join_cons_cons, List.mem_append, List.mem_append] at h
      rcases h with (hrow | hsep) | hrest
      · exact .inr ⟨row, .head _, hrow⟩
      · exact .inl hsep
      · exact (ih hrest).imp_right fun ⟨other, hother, hc⟩ => ⟨other, .tail row hother, hc⟩

theorem mem_join_of_mem {sep row : Text} {rows : List Text} (h : row ∈ rows) {c : Char}
    (hc : c ∈ row) : c ∈ join sep rows := by
  induction rows with
  | nil => cases h
  | cons p rows ih =>
    cases rows with
    | nil => exact List.mem_singleton.mp h ▸ hc
    | cons q rows =>
      rw [join_cons_cons]
      cases h with
      | head => exact List.mem_append_left _ (List.mem_append_left _ hc)
      | tail _ h => exact List.mem_append_right _ (ih h)

/-- Cutting at a separator undoes joining with it. -/
theorem splitOn_join {sep : Char} {rows : List Text} (hne : rows ≠ [])
    (hrows : ∀ row ∈ rows, sep ∉ row) : splitOn sep (join [sep] rows) = rows := by
  have hfree {row : Text} (h : sep ∉ row) : ∀ c ∈ row, (c == sep) = false := by
    intro c hc
    have : c ≠ sep := fun heq => h (heq ▸ hc)
    simpa using this
  unfold splitOn
  induction rows with
  | nil => exact absurd rfl hne
  | cons row rows ih =>
    rw [List.forall_mem_cons] at hrows
    cases rows with
    | nil => rw [join_singleton, splitBy_of_forall (hfree hrows.1)]
    | cons row' rows =>
      rw [join_cons_cons, List.append_assoc, List.singleton_append,
        splitBy_append_cons (hfree hrows.1) (by simp), ih (List.cons_ne_nil _ _) hrows.2]

/-! ## Rows that hold something -/

theorem mem_dropWhile {p : Char → Bool} {t : Text} {c : Char} (hc : c ∈ t) (h : p c = false) :
    c ∈ t.dropWhile p := by
  induction t with
  | nil => contradiction
  | cons e t ih =>
    rw [List.dropWhile_cons]
    split
    · next he =>
      refine ih ((List.mem_cons.mp hc).resolve_left ?_)
      rintro rfl
      simp [h] at he
    · exact hc

theorem isBlankRow_eq_false_of_mem {row : Text} {c : Char} (hc : c ∈ row)
    (hblank : isBlank c = false) : isBlankRow row = false := by
  have hback := mem_dropWhile (List.mem_reverse.mpr (mem_dropWhile hc hblank)) hblank
  unfold isBlankRow trim
  exact List.isEmpty_eq_false_iff_exists_mem.mpr ⟨c, List.mem_reverse.mpr hback⟩

theorem linesOfPieces_eq_self {rows : List Text} (hne : ∀ row ∈ rows, row ≠ [])
    (hreturn : ∀ row ∈ rows, row.getLast? ≠ some '\r') : linesOfPieces rows = rows := by
  induction rows with
  | nil => rfl
  | cons row rows ih =>
    rw [List.forall_mem_cons] at hne hreturn
    cases rows with
    | nil => simp [linesOfPieces, hne.1]
    | cons row' rows =>
      rw [linesOfPieces, ih hne.2 hreturn.2, dropFinalReturn, if_neg hreturn.1]

/-- A row that stays as it is when empty rows are dropped. -/
structure IsRow (row : Text) : Prop where
  not_newline : '\n' ∉ row
  not_return : row.getLast? ≠ some '\r'
  visible : ∃ c ∈ row, isBlank c = false

theorem dropBlankRows_join {rows : List Text} (hne : rows ≠ []) (hrows : ∀ row ∈ rows, IsRow row) :
    dropBlankRows (join ['\n'] rows) = join ['\n'] rows := by
  have hlines : lines (join ['\n'] rows) = rows := by
    rw [lines, splitOn_join hne fun row h => (hrows row h).not_newline]
    refine linesOfPieces_eq_self (fun row h hnil => ?_) fun row h => (hrows row h).not_return
    obtain ⟨c, hc, -⟩ := (hrows row h).visible
    rw [hnil] at hc
    exact List.not_mem_nil hc
  have hfilter : rows.filter (!isBlankRow ·) = rows := by
    refine List.filter_eq_self.mpr fun row h => ?_
    obtain ⟨c, hc, hblank⟩ := (hrows row h).visible
    simp [isBlankRow_eq_false_of_mem hc hblank]
  rw [dropBlankRows, hlines, hfilter]

/-! ## Trimming -/

theorem trim_eq_self {t : Text} (hfirst : ∀ c ∈ t.head?, isBlank c = false)
    (hlast : ∀ c ∈ t.getLast?, isBlank c = false) : trim t = t := by
  have hdrop {s : Text} (h : ∀ c ∈ s.head?, isBlank c = false) : s.dropWhile isBlank = s := by
    cases s with
    | nil => rfl
    | cons c s => rw [List.dropWhile_cons_of_neg (by simp [h c rfl])]
  rw [trim, hdrop hfirst, hdrop (by simpa using hlast), List.reverse_reverse]

end TableScaffold.Text
