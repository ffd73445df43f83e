import Mathlib.Data.List.TakeWhile
import TableScaffold.Proofs.Text.Rows

set_option autoImplicit false

/-!
# Rows that are kept

A text is cut at its line feeds, and what is kept of it are the rows that hold something,
without the carriage returns that end them.  So the text in front of a line feed and the text
behind it have each their own rows (`dropBlankRows_append`), wide line breaks count as line
feeds (`IsSpacing.dropBlankRows`), and a carriage return at the end of a text is at most kept
at the end (`Returned.dropBlankRows`).
-/

namespace TableScaffold.Text

/-! ## Kept rows -/

/-- The rows that are kept of the pieces of a text. -/
def keptRows (pieces : List Text) : List Text :=
  (linesOfPieces pieces).filter (!isBlankRow ·)

theorem keptRows_singleton (row : Text) :
    keptRows [row] = if isBlankRow row then [] else [row] := by
  cases row with
  | nil => rfl
  | cons c row =>
    rw [keptRows, linesOfPieces, List.isEmpty_cons, if_neg Bool.false_ne_true, List.filter_cons]
    cases isBlankRow (c :: row) <;> rfl

theorem keptRows_cons_cons (p q : Text) (ps : List Text) :
    keptRows (p :: q :: ps) = if isBlankRow (dropFinalReturn p) then keptRows (q :: ps)
      else dropFinalReturn p :: keptRows (q :: ps) := by
  rw [keptRows, linesOfPieces, List.filter_cons]
  cases isBlankRow (dropFinalReturn p) <;> rfl

theorem dropBlankRows_eq (t : Text) : dropBlankRows t = join ['\n'] (keptRows (splitOn '\n' t)) :=
  rfl

theorem isBlank_of_isBlankRow {row : Text} (h : isBlankRow row = true) :
    ∀ c ∈ row, isBlank c := by
  intro c hc
  by_contra hblank
  rw [isBlankRow_eq_false_of_mem hc (Bool.eq_false_iff.mpr hblank)] at h
  contradiction

theorem isBlankRow_of_isBlank {row : Text} (h : ∀ c ∈ row, isBlank c) : isBlankRow row = true := by
  have hfront : row.dropWhile isBlank = [] := List.dropWhile_eq_nil_iff.mpr h
  rw [isBlankRow, trim, hfront]
  rfl

theorem isBlankRow_iff {row : Text} : isBlankRow row = true ↔ ∀ c ∈ row, isBlank c :=
  ⟨isBlank_of_isBlankRow, isBlankRow_of_isBlank⟩

/-- A row without the carriage return that ends it, if one does. -/
theorem dropFinalReturn_cases (row : Text) :
    dropFinalReturn row = row ∨ row = dropFinalReturn row ++ ['\r'] := by
  unfold dropFinalReturn
  split
  · next h =>
    obtain ⟨front, rfl⟩ := List.getLast?_eq_some_iff.mp h
    exact .inr (by rw [List.dropLast_concat])
  · exact .inl rfl

theorem dropFinalReturn_concat (row : Text) : dropFinalReturn (row ++ ['\r']) = row := by
  rw [dropFinalReturn, List.getLast?_concat, if_pos rfl, List.dropLast_concat]

/-- A row is empty if it is so without the carriage return at its end. -/
theorem isBlankRow_dropFinalReturn (row : Text) :
    isBlankRow (dropFinalReturn row) = isBlankRow row := by
  rw [Bool.eq_iff_iff, isBlankRow_iff, isBlankRow_iff]
  rcases dropFinalReturn_cases row with heq | heq
  · rw [heq]
  · have hreturn : ∀ c ∈ ['\r'], isBlank c := by decide
    conv => rhs; rw [heq, List.forall_mem_append]
    exact (and_iff_left hreturn).symm

/-! ## Rows that a line feed ends -/

/-- The rows that are kept of pieces each of which a line feed ends. -/
def closedRows (pieces : List Text) : List Text :=
  (pieces.map dropFinalReturn).filter (!isBlankRow ·)

theorem closedRows_append (ps qs : List Text) :
    closedRows (ps ++ qs) = closedRows ps ++ closedRows qs := by
  rw [closedRows, List.map_append, List.filter_append]
  rfl

theorem closedRows_singleton (row : Text) :
    closedRows [row] = if isBlankRow row then [] else [dropFinalReturn row] := by
  rw [closedRows, List.map_singleton, List.filter_cons, isBlankRow_dropFinalReturn]
  cases isBlankRow row <;> rfl

theorem keptRows_append (ps : List Text) {qs : List Text} (hne : qs ≠ []) :
    keptRows (ps ++ qs) = closedRows ps ++ keptRows qs := by
  obtain ⟨q, qs, rfl⟩ := List.exists_cons_of_ne_nil hne
  induction ps with
  | nil => rfl
  | cons p ps ih =>
    obtain ⟨e, es, heq⟩ : ∃ e es, ps ++ q :: qs = e :: es :=
      List.exists_cons_of_ne_nil (List.append_ne_nil_of_right_ne_nil ps hne)
    rw [List.cons_append, heq, keptRows_cons_cons, ← heq, ih, ← List.singleton_append (l := ps),
      closedRows_append, closedRows_singleton, isBlankRow_dropFinalReturn]
    split <;> rfl

/-- A text has a last piece. -/
theorem exists_splitOn (sep : Char) (t : Text) : ∃ ps last, splitOn sep t = ps ++ [last] :=
  ⟨_, _, (List.dropLast_concat_getLast (splitBy_ne_nil (· == sep) t)).symm⟩

theorem splitOn_newline (p t : Text) :
    splitOn '\n' (p ++ '\n' :: t) = splitOn '\n' p ++ splitOn '\n' t :=
  splitBy_append_separator rfl p t

/-- The rows that are kept of a text in front of a line feed and of the text behind it. -/
theorem keptRows_newline (p t : Text) : keptRows (splitOn '\n' (p ++ '\n' :: t))
    = closedRows (splitOn '\n' p) ++ keptRows (splitOn '\n' t) := by
  rw [splitOn_newline]
  exact keptRows_append _ (splitBy_ne_nil _ t)

/-! ## Texts one below the other -/

/-- Two texts in rows of their own, one below the other. -/
def stack (a b : Text) : Text :=
  if a = [] then b else if b = [] then a else a ++ '\n' :: b

theorem eq_nil_of_join {sep : Text} {rows : List Text} (hrows : ∀ row ∈ rows, row ≠ [])
    (h : join sep rows = []) : rows = [] := by
  cases rows with
  | nil => rfl
  | cons row rows =>
    rw [List.forall_mem_cons] at hrows
    cases rows with
    | nil => exact absurd h hrows.1
    | cons row' rows =>
      rw [join_cons_cons, List.append_assoc] at h
      exact absurd (List.append_eq_nil_iff.mp h).1 hrows.1

theorem join_append_eq_stack {ps qs : List Text} (hp : ∀ row ∈ ps, row ≠ [])
    (hq : ∀ row ∈ qs, row ≠ []) :
    join ['\n'] (ps ++ qs) = stack (join ['\n'] ps) (join ['\n'] qs) := by
  unfold stack
  split
  · next hnil => rw [eq_nil_of_join hp hnil, List.nil_append]
  · next hps =>
    split
    · next hnil => rw [eq_nil_of_join hq hnil, List.append_nil]
    · next hqs =>
      have hne {rows : List Text} (h : join ['\n'] rows ≠ []) : rows ≠ [] := by
        rintro rfl
        exact h rfl
      rw [join_append (hne hps) (hne hqs), List.append_assoc]
      rfl

theorem ne_nil_of_mem_filter {rows : List Text} :
    ∀ row ∈ rows.filter (!isBlankRow ·), row ≠ [] := by
  rintro row hrow rfl
  exact absurd (List.mem_filter.mp hrow).2 (by decide)

theorem dropBlankRows_closed (p : Text) :
    dropBlankRows (p ++ ['\n']) = join ['\n'] (closedRows (splitOn '\n' p)) := by
  rw [dropBlankRows_eq, keptRows_newline]
  exact congrArg (join ['\n']) (List.append_nil _)

/-- What is kept of a text in front of a line feed stands above what is kept of the text behind
it. -/
theorem dropBlankRows_append (p t : Text) : dropBlankRows (p ++ '\n' :: t)
    = stack (dropBlankRows (p ++ ['\n'])) (dropBlankRows t) := by
  rw [dropBlankRows_closed, dropBlankRows_eq, keptRows_newline, dropBlankRows_eq]
  exact join_append_eq_stack ne_nil_of_mem_filter ne_nil_of_mem_filter

/-- Dropping the empty rows of texts one below the other. -/
theorem dropBlankRows_stack (a b : Text) : (a = [] ∧ dropBlankRows (stack a b) = dropBlankRows b)
    ∨ (b = [] ∧ dropBlankRows (stack a b) = dropBlankRows a)
    ∨ dropBlankRows (stack a b) = stack (dropBlankRows (a ++ ['\n'])) (dropBlankRows b) := by
  unfold stack
  split
  · next ha => exact .inl ⟨ha, rfl⟩
  · split
    · next hb => exact .inr (.inl ⟨hb, rfl⟩)
    · exact .inr (.inr (dropBlankRows_append a b))

/-! ## Carriage returns at the end -/

/-- The second text is the first one, perhaps with a carriage return behind it. -/
inductive Returned : Text → Text → Prop where
  | same (t : Text) : Returned t t
  | more (t : Text) : Returned t (t ++ ['\r'])

theorem join_concat_append (sep : Text) (ps : List Text) (p t : Text) :
    join sep (ps ++ [p ++ t]) = join sep (ps ++ [p]) ++ t := by
  induction ps with
  | nil => rfl
  | cons q ps ih =>
    obtain ⟨e, es, heq⟩ : ∃ e es, ps ++ [p] = e :: es :=
      List.exists_cons_of_ne_nil (List.concat_ne_nil p ps)
    obtain ⟨e', es', heq'⟩ : ∃ e es, ps ++ [p ++ t] = e :: es :=
      List.exists_cons_of_ne_nil (List.concat_ne_nil (p ++ t) ps)
    rw [List.cons_append, List.cons_append, heq, heq', join_cons_cons, join_cons_cons, ← heq, ← heq',
      ih]
    exact (List.append_assoc _ _ t).symm

theorem join_cons_append (sep p t : Text) (ps : List Text) :
    join sep ((p ++ t) :: ps) = p ++ join sep (t :: ps) := by
  cases ps with
  | nil => rfl
  | cons q ps => simp

/-- Texts that are joined may be joined with others. -/
theorem join_join {sep : Text} {qs : List Text} (hne : qs ≠ []) (ps rs : List Text) :
    join sep (ps ++ join sep qs :: rs) = join sep (ps ++ (qs ++ rs)) := by
  have hfront : join sep (join sep qs :: rs) = join sep (qs ++ rs) := by
    cases rs with
    | nil => rw [join_singleton, List.append_nil]
    | cons r rs => rw [join_cons_cons, join_append hne (List.cons_ne_nil r rs)]
  cases ps with
  | nil => exact hfront
  | cons p ps =>
    rw [join_append (List.cons_ne_nil p ps) (List.cons_ne_nil _ _), hfront,
      join_append (List.cons_ne_nil p ps) (List.append_ne_nil_of_left_ne_nil hne rs)]

/-- Where a text ends in a line feed, a carriage return may be missing at the end. -/
theorem returned_closed (t : Text) :
    Returned (dropBlankRows (t ++ ['\n'])) (dropBlankRows t) := by
  obtain ⟨ps, last, hlast⟩ := exists_splitOn '\n' t
  rw [dropBlankRows_closed, dropBlankRows_eq, hlast, keptRows_append _ (List.cons_ne_nil _ _),
    closedRows_append, closedRows_singleton, keptRows_singleton]
  split
  · exact .same _
  · rcases dropFinalReturn_cases last with heq | heq
    · rw [heq]
      exact .same _
    · conv => rhs; rw [heq, join_concat_append]
      exact .more _

/-- A carriage return at the end is kept at the end, if at all. -/
theorem Returned.dropBlankRows {t t' : Text} (h : Returned t t') :
    Returned (dropBlankRows t) (dropBlankRows t') := by
  cases h with
  | same => exact .same _
  | more =>
    obtain ⟨ps, last, hlast⟩ := exists_splitOn '\n' t
    have hreturn : splitOn '\n' (t ++ ['\r']) = ps ++ [last ++ ['\r']] := splitBy_append hlast rfl
    have hblank : isBlankRow (last ++ ['\r']) = isBlankRow last := by
      rw [← isBlankRow_dropFinalReturn, dropFinalReturn_concat]
    rw [dropBlankRows_eq, dropBlankRows_eq, hlast, hreturn, keptRows_append _ (List.cons_ne_nil _ _),
      keptRows_append _ (List.cons_ne_nil _ _), keptRows_singleton, keptRows_singleton, hblank]
    split
    · exact .same _
    · rw [join_concat_append]
      exact .more _

/-! ## Wide line breaks -/

/-- The breaks between two lines. -/
def lineBreaks : List Text := [['\n'], ['\r', '\n']]

/-- A row of spaces and tabs. -/
def IsSpaces (w : Text) : Prop := ∀ c ∈ w, c = ' ' ∨ c = '\t'

/-- A line break with any number of rows of spaces and tabs behind it. -/
inductive IsSpacing : Text → Prop where
  | first {b : Text} (hb : b ∈ lineBreaks) : IsSpacing b
  | row {g w b : Text} (h : IsSpacing g) (hw : IsSpaces w) (hb : b ∈ lineBreaks) :
    IsSpacing (g ++ (w ++ b))

theorem IsSpaces.isBlank {w : Text} (h : IsSpaces w) : ∀ c ∈ w, Text.isBlank c := by
  intro c hc
  rcases h c hc with rfl | rfl <;> decide

/-- Behind a row that does not end in a carriage return each break counts as a line feed. -/
theorem keptRows_lineBreak {y b : Text} (hy : y.getLast? ≠ some '\r') (hb : b ∈ lineBreaks)
    (z : Text) : keptRows (splitOn '\n' (y ++ (b ++ z)))
      = closedRows (splitOn '\n' y) ++ keptRows (splitOn '\n' z) := by
  simp only [lineBreaks, List.mem_cons, List.not_mem_nil, or_false] at hb
  rcases hb with rfl | rfl
  · exact keptRows_newline y z
  · obtain ⟨ps, last, hlast⟩ := exists_splitOn '\n' y
    have hreturn : splitOn '\n' (y ++ ['\r']) = ps ++ [last ++ ['\r']] := splitBy_append hlast rfl
    -- the last row of `y` does not end in a carriage return either
    have hfinal : dropFinalReturn last = last := by
      have heq := join_splitOn '\n' y
      rcases dropFinalReturn_cases last with h | h
      · exact h
      · rw [hlast, h, join_concat_append] at heq
        rw [← heq, List.getLast?_concat] at hy
        exact absurd rfl hy
    have hclosed : closedRows [last ++ ['\r']] = closedRows [last] := by
      rw [closedRows, closedRows, List.map_singleton, List.map_singleton, dropFinalReturn_concat,
        hfinal]
    rw [show y ++ (['\r', '\n'] ++ z) = (y ++ ['\r']) ++ '\n' :: z by simp, keptRows_newline,
      hreturn, hlast, closedRows_append, closedRows_append, hclosed]

theorem closedRows_of_isBlank {w : Text} (hfeed : '\n' ∉ w) (hw : ∀ c ∈ w, isBlank c) :
    closedRows (splitOn '\n' w) = [] := by
  have hone : splitOn '\n' w = [w] := splitBy_of_forall fun c hc => by
    have : c ≠ '\n' := fun h => hfeed (h ▸ hc)
    simpa using this
  rw [hone, closedRows_singleton, isBlankRow_of_isBlank hw, if_pos rfl]

theorem IsSpaces.not_mem {w : Text} (h : IsSpaces w) {c : Char} (hc : c ≠ ' ') (hc' : c ≠ '\t') :
    c ∉ w := by
  intro hmem
  rcases h c hmem with rfl | rfl
  · exact hc rfl
  · exact hc' rfl

/-- A row of spaces and tabs is not kept. -/
theorem keptRows_spaces {w b : Text} (hw : IsSpaces w) (hb : b ∈ lineBreaks) (z : Text) :
    keptRows (splitOn '\n' (w ++ (b ++ z))) = keptRows (splitOn '\n' z) := by
  have hreturn : w.getLast? ≠ some '\r' := by
    intro h
    exact hw.not_mem (by decide) (by decide) (List.mem_of_getLast? h)
  rw [keptRows_lineBreak hreturn hb, closedRows_of_isBlank (hw.not_mem (by decide) (by decide))
    hw.isBlank, List.nil_append]

namespace IsSpacing

variable {g y : Text}

theorem keptRows_eq (h : IsSpacing g) (hy : y.getLast? ≠ some '\r') (z : Text) :
    keptRows (splitOn '\n' (y ++ (g ++ z)))
      = closedRows (splitOn '\n' y) ++ keptRows (splitOn '\n' z) := by
  induction h generalizing z with
  | first hb => exact keptRows_lineBreak hy hb z
  | row _ hw hb ih => rw [List.append_assoc, ih, List.append_assoc, keptRows_spaces hw hb]

/-- A line break with rows of spaces and tabs behind it counts as a line feed. -/
theorem dropBlankRows (h : IsSpacing g) (hy : y.getLast? ≠ some '\r') (z : Text) :
    dropBlankRows (y ++ (g ++ z)) = Text.dropBlankRows (y ++ '\n' :: z) := by
  rw [dropBlankRows_eq, h.keptRows_eq hy, dropBlankRows_eq, keptRows_newline]

end IsSpacing

/-- Spaces and tabs behind the last line feed are not kept. -/
theorem IsSpaces.dropBlankRows {w : Text} (h : IsSpaces w) (y : Text) :
    dropBlankRows (y ++ '\n' :: w) = Text.dropBlankRows (y ++ ['\n']) := by
  have hone : splitOn '\n' w = [w] := splitBy_of_forall fun c hc => by
    rcases h c hc with rfl | rfl <;> decide
  rw [dropBlankRows_eq, keptRows_newline, dropBlankRows_eq, keptRows_newline, hone,
    keptRows_singleton, isBlankRow_of_isBlank h.isBlank, if_pos rfl]
  rfl

end TableScaffold.Text
