import Mathlib.Data.List.Infix
import TableScaffold.Proofs.Text.Kept
import TableScaffold.Table.Grammar

set_option autoImplicit false

/-!
# Statements that are cleaned twice

A statement loses its empty rows before it is parsed, and a statement of a schema has lost them
once before.  The second time no row is empty any more, but each row that a line feed ends loses
one more carriage return (`dropBlankRows_dropBlankRows`).  So the second cleaning changes
nothing, and the statement is parsed alike, unless two carriage returns stood in front of a line
feed (`Table.parse_cleaned`); in a quoted name one of them is left, or none
(`Table.not_parse_cleaned`).
-/

namespace TableScaffold

namespace Text

/-! ## Carriage returns in front of line feeds -/

/-- The text without one carriage return in front of each line feed. -/
def dropReturns : Text → Text
  | [] => []
  | c :: t => if c = '\r' ∧ t.head? = some '\n' then dropReturns t else c :: dropReturns t

theorem length_dropReturns_le (t : Text) : (dropReturns t).length ≤ t.length := by
  induction t with
  | nil => exact le_rfl
  | cons c t ih =>
    rw [dropReturns]
    split
    · exact Nat.le_succ_of_le ih
    · exact Nat.succ_le_succ ih

/-- Nothing is dropped exactly if no carriage return stands in front of a line feed. -/
theorem dropReturns_eq_self_iff (t : Text) : dropReturns t = t ↔ ¬ ['\r', '\n'] <:+: t := by
  induction t with
  | nil => simp [dropReturns]
  | cons c t ih =>
    rw [dropReturns, List.infix_cons_iff]
    split
    · next h =>
      obtain ⟨r, rfl⟩ : ∃ r, t = '\n' :: r := List.head?_eq_some_iff.mp h.2
      refine iff_of_false (fun heq => ?_) fun hnot => hnot (.inl ⟨r, by rw [h.1]; rfl⟩)
      have hle := length_dropReturns_le ('\n' :: r)
      rw [heq] at hle
      exact absurd hle (by simp)
    · next h =>
      have hhead : ¬ ['\r', '\n'] <+: c :: t := by
        rintro ⟨r, hr⟩
        obtain ⟨rfl, rfl⟩ := List.cons.inj hr
        exact h ⟨rfl, rfl⟩
      rw [List.cons_inj_right, ih, not_or]
      exact (and_iff_right hhead).symm

theorem dropFinalReturn_cons_cons (c d : Char) (r : Text) :
    dropFinalReturn (c :: d :: r) = c :: dropFinalReturn (d :: r) := by
  unfold dropFinalReturn
  rw [List.getLast?_cons_cons]
  split <;> rfl

theorem dropReturns_row {row : Text} (h : '\n' ∉ row) : dropReturns row = row := by
  rw [dropReturns_eq_self_iff]
  intro hpair
  exact h (hpair.subset (by decide))

/-- A row that a line feed ends loses the carriage return at its end. -/
theorem dropReturns_newline {row : Text} (h : '\n' ∉ row) (t : Text) :
    dropReturns (row ++ '\n' :: t) = dropFinalReturn row ++ '\n' :: dropReturns t := by
  have hfeed : dropReturns ('\n' :: t) = '\n' :: dropReturns t :=
    if_neg fun hboth => absurd hboth.1 (by decide)
  induction row with
  | nil => exact hfeed
  | cons c r ih =>
    rw [List.mem_cons, not_or] at h
    cases r with
    | nil =>
      rw [List.singleton_append, dropReturns, hfeed]
      by_cases hc : c = '\r'
      · subst hc
        rfl
      · have hrow : dropFinalReturn [c] = [c] := if_neg (by simpa using hc)
        rw [hrow, if_neg fun hboth => hc hboth.1]
        rfl
    | cons d r =>
      have hd : d ≠ '\n' := by
        rintro rfl
        exact h.2 (.head r)
      rw [List.cons_append, dropReturns, ih h.2, dropFinalReturn_cons_cons]
      exact if_neg fun hboth => hd (Option.some.inj hboth.2)

theorem dropReturns_join {rows : List Text} {last : Text} (hrows : ∀ row ∈ rows, '\n' ∉ row)
    (hlast : '\n' ∉ last) : dropReturns (join ['\n'] (rows ++ [last]))
      = join ['\n'] (rows.map dropFinalReturn ++ [last]) := by
  induction rows with
  | nil => exact dropReturns_row hlast
  | cons row rows ih =>
    rw [List.forall_mem_cons] at hrows
    rw [List.cons_append, join_cons (List.concat_ne_nil last rows), List.append_assoc,
      List.singleton_append, dropReturns_newline hrows.1, ih hrows.2, List.map_cons,
      List.cons_append, join_cons (List.concat_ne_nil last _), List.append_assoc]
    rfl

/-! ## Cleaning twice -/

theorem subset_dropFinalReturn (row : Text) : ∀ c ∈ dropFinalReturn row, c ∈ row := by
  intro c hc
  rcases dropFinalReturn_cases row with heq | heq
  · rwa [heq] at hc
  · rw [heq]
    exact List.mem_append_left _ hc

theorem exists_of_mem_linesOfPieces {pieces : List Text} {row : Text}
    (h : row ∈ linesOfPieces pieces) : ∃ piece ∈ pieces, ∀ c ∈ row, c ∈ piece := by
  fun_induction linesOfPieces pieces with
  | case1 => cases h
  | case2 last hempty => cases h
  | case3 last hempty =>
    rw [List.mem_singleton] at h
    exact ⟨last, .head _, fun c hc => h ▸ hc⟩
  | case4 p q ps ih =>
    cases h with
    | head => exact ⟨p, .head _, subset_dropFinalReturn p⟩
    | tail _ h =>
      obtain ⟨piece, hpiece, hsub⟩ := ih h
      exact ⟨piece, .tail p hpiece, hsub⟩

/-- The rows that are kept of a text have no line feed, and none of them is empty. -/
theorem not_mem_of_mem_keptRows {t row : Text} (h : row ∈ keptRows (splitOn '\n' t)) :
    '\n' ∉ row ∧ isBlankRow row = false := by
  obtain ⟨hline, hfilled⟩ := List.mem_filter.mp h
  obtain ⟨piece, hpiece, hsub⟩ := exists_of_mem_linesOfPieces hline
  exact ⟨fun hmem => not_mem_of_mem_splitOn hpiece (hsub '\n' hmem), by simpa using hfilled⟩

theorem closedRows_of_filled {rows : List Text} (h : ∀ row ∈ rows, isBlankRow row = false) :
    closedRows rows = rows.map dropFinalReturn := by
  refine List.filter_eq_self.mpr fun row hrow => ?_
  obtain ⟨piece, hpiece, rfl⟩ := List.mem_map.mp hrow
  rw [isBlankRow_dropFinalReturn, h piece hpiece]
  rfl

/-- The second cleaning takes one carriage return from each line feed, and nothing else. -/
theorem dropBlankRows_dropBlankRows (t : Text) :
    dropBlankRows (dropBlankRows t) = dropReturns (dropBlankRows t) := by
  have hrows : ∀ row ∈ keptRows (splitOn '\n' t), '\n' ∉ row ∧ isBlankRow row = false :=
    fun _ => not_mem_of_mem_keptRows
  rw [dropBlankRows_eq t]
  rcases List.eq_nil_or_concat' (keptRows (splitOn '\n' t)) with hnil | ⟨rows, last, hconcat⟩
  · rw [hnil]
    rfl
  · rw [hconcat] at hrows ⊢
    rw [List.forall_mem_append] at hrows
    obtain ⟨hfeed, hfilled⟩ := forall₂_and.mp hrows.1
    obtain ⟨hlast, hlastFilled⟩ := hrows.2 last (.head _)
    have hsplit : splitOn '\n' (join ['\n'] (rows ++ [last])) = rows ++ [last] :=
      splitOn_join (List.concat_ne_nil last rows)
        (List.forall_mem_append.mpr ⟨hfeed, by simpa using hlast⟩)
    have hclosed : keptRows [last] = [last] := by
      rw [keptRows_singleton, hlastFilled]
      rfl
    rw [dropBlankRows_eq, hsplit, keptRows_append _ (List.cons_ne_nil _ _), hclosed,
      closedRows_of_filled hfilled, dropReturns_join hfeed hlast]

/-! ## Doubled carriage returns -/

/-- Two carriage returns stand in front of the line feed of a row that holds something and has
such a row below it. -/
def HasDoubledReturn (t : Text) : Prop :=
  ∃ before c w behind, isBlank c = false ∧ '\n' ∉ w ∧ (∃ d ∈ behind, isBlank d = false)
    ∧ t = before ++ (c :: (w ++ ['\r', '\r'])) ++ '\n' :: behind

theorem isBlankRow_eq_false_iff {row : Text} :
    isBlankRow row = false ↔ ∃ c ∈ row, isBlank c = false := by
  rw [Bool.eq_false_iff, Ne, isBlankRow_iff]
  simp

theorem keptRows_eq_nil_iff (pieces : List Text) :
    keptRows pieces = [] ↔ ∀ piece ∈ pieces, isBlankRow piece = true := by
  induction pieces with
  | nil => exact iff_of_true rfl nofun
  | cons p ps ih =>
    rw [List.forall_mem_cons]
    cases ps with
    | nil =>
      rw [keptRows_singleton]
      cases isBlankRow p <;> simp
    | cons q ps =>
      rw [keptRows_cons_cons, isBlankRow_dropFinalReturn, ← ih]
      cases isBlankRow p <;> simp

/-- Something is kept of pieces exactly if their text holds something. -/
theorem keptRows_ne_nil_iff (pieces : List Text) :
    keptRows pieces ≠ [] ↔ ∃ c ∈ join ['\n'] pieces, isBlank c = false := by
  have hfilled : keptRows pieces ≠ [] ↔ ∃ piece ∈ pieces, ∃ c ∈ piece, isBlank c = false := by
    rw [Ne, keptRows_eq_nil_iff]
    simp [← isBlankRow_eq_false_iff]
  rw [hfilled]
  constructor
  · rintro ⟨piece, hpiece, c, hc, hblank⟩
    exact ⟨c, mem_join_of_mem hpiece hc, hblank⟩
  · rintro ⟨c, hc, hblank⟩
    rcases mem_join hc with hsep | ⟨piece, hpiece, hmem⟩
    · rw [List.mem_singleton.mp hsep] at hblank
      exact absurd hblank (by decide)
    · exact ⟨piece, hpiece, c, hmem, hblank⟩

/-- Of a doubled carriage return one is kept. -/
theorem HasDoubledReturn.kept {t : Text} (h : HasDoubledReturn t) :
    ['\r', '\n'] <:+: dropBlankRows t := by
  obtain ⟨before, c, w, behind, hc, hw, hbehind, rfl⟩ := h
  obtain ⟨ps, first, hbefore⟩ := exists_splitOn '\n' before
  have hrow : splitOn '\n' (c :: (w ++ ['\r', '\r'])) = [c :: (w ++ ['\r', '\r'])] := by
    have hfeed : c ≠ '\n' := by
      rintro rfl
      exact absurd hc (by decide)
    exact splitOn_join (List.cons_ne_nil _ []) (by simpa [hw] using hfeed.symm)
  have hfront : splitOn '\n' (before ++ (c :: (w ++ ['\r', '\r'])))
      = ps ++ [first ++ (c :: (w ++ ['\r', '\r']))] := splitBy_append hbefore hrow
  have hfilled : isBlankRow (first ++ (c :: (w ++ ['\r', '\r']))) = false :=
    isBlankRow_eq_false_iff.mpr ⟨c, by simp, hc⟩
  have hdrop : dropFinalReturn (first ++ (c :: (w ++ ['\r', '\r'])))
      = (first ++ c :: w) ++ ['\r'] := by
    rw [← dropFinalReturn_concat (first ++ c :: w ++ ['\r'])]
    simp
  have hrest : keptRows (splitOn '\n' behind) ≠ [] := by
    rw [keptRows_ne_nil_iff, join_splitOn]
    exact hbehind
  rw [dropBlankRows_eq, keptRows_newline, hfront, closedRows_append, closedRows_singleton, hfilled,
    if_neg Bool.false_ne_true, hdrop, join_append (List.concat_ne_nil _ _) hrest,
    join_concat_append]
  exact ⟨join ['\n'] (closedRows ps ++ [first ++ c :: w]),
    join ['\n'] (keptRows (splitOn '\n' behind)), by simp⟩

/-- A kept row that ends in a carriage return, with another row below it, ended in two. -/
theorem exists_of_keptRows_eq {pieces above below : List Text} {row : Text}
    (h : keptRows pieces = above ++ (row ++ ['\r']) :: below) (hbelow : below ≠ []) :
    ∃ front rest, pieces = front ++ (row ++ ['\r', '\r']) :: rest ∧ keptRows rest ≠ [] := by
  induction pieces generalizing above with
  | nil => exact absurd h (by simp [keptRows, linesOfPieces])
  | cons p ps ih =>
    cases ps with
    | nil =>
      have hone : (keptRows [p]).length ≤ 1 := by
        rw [keptRows_singleton]
        split <;> simp
      have hpos := List.length_pos_iff.mpr hbelow
      rw [h, List.length_append, List.length_cons] at hone
      omega
    | cons q ps =>
      rw [keptRows_cons_cons] at h
      split at h
      · obtain ⟨front, rest, heq, hrest⟩ := ih h
        exact ⟨p :: front, rest, by rw [heq]; rfl, hrest⟩
      · cases above with
        | nil =>
          obtain ⟨hp, hrest⟩ := List.cons.inj h
          refine ⟨[], q :: ps, ?_, hrest ▸ hbelow⟩
          rcases dropFinalReturn_cases p with heq | heq
          · -- a row that loses nothing does not end in a carriage return
            rw [heq] at hp
            rw [hp, dropFinalReturn_concat] at heq
            exact absurd heq (by simp)
          · rw [heq, hp]
            simp
        | cons x above =>
          obtain ⟨front, rest, heq, hrest⟩ := ih (List.cons.inj h).2
          exact ⟨p :: front, rest, by rw [heq]; rfl, hrest⟩

theorem exists_join_append (sep : Text) (front : List Text) {rows : List Text} (hne : rows ≠ []) :
    ∃ before, join sep (front ++ rows) = before ++ join sep rows := by
  cases front with
  | nil => exact ⟨[], rfl⟩
  | cons p ps => exact ⟨_, join_append (List.cons_ne_nil p ps) hne⟩

/-- Where a carriage return is kept in front of a line feed, a kept row ends in it and has another
row below it. -/
theorem exists_keptRows_eq {t : Text} (h : ['\r', '\n'] <:+: dropBlankRows t) :
    ∃ above row below, keptRows (splitOn '\n' t) = above ++ (row ++ ['\r']) :: below
      ∧ below ≠ [] := by
  obtain ⟨a, b, hab⟩ := h
  have hne : keptRows (splitOn '\n' t) ≠ [] := by
    intro hnil
    rw [dropBlankRows_eq, hnil] at hab
    simp at hab
  have hjoin : join ['\n'] (keptRows (splitOn '\n' t)) = a ++ ['\r'] ++ '\n' :: b := by
    rw [← dropBlankRows_eq, ← hab]
    simp
  obtain ⟨above, row, ha⟩ := exists_splitOn '\n' a
  have hreturn : splitOn '\n' (a ++ ['\r']) = above ++ [row ++ ['\r']] := splitBy_append ha rfl
  refine ⟨above, row, splitOn '\n' b, ?_, splitBy_ne_nil _ b⟩
  rw [← splitOn_join hne fun _ hrow => (not_mem_of_mem_keptRows hrow).1, hjoin, splitOn_newline,
    hreturn, List.append_assoc]
  rfl

theorem hasDoubledReturn_of_kept {t : Text} (h : ['\r', '\n'] <:+: dropBlankRows t) :
    HasDoubledReturn t := by
  obtain ⟨above, row, below, hrows, hbelow⟩ := exists_keptRows_eq h
  obtain ⟨front, rest, hpieces, hrest⟩ := exists_of_keptRows_eq hrows hbelow
  have hmem : row ++ ['\r'] ∈ keptRows (splitOn '\n' t) := by
    rw [hrows]
    simp
  obtain ⟨hfeed, hfilled⟩ := not_mem_of_mem_keptRows hmem
  obtain ⟨c, hc, hblank⟩ := isBlankRow_eq_false_iff.mp hfilled
  have hrow : c ∈ row := by
    refine (List.mem_append.mp hc).resolve_right fun hreturn => ?_
    rw [List.mem_singleton.mp hreturn] at hblank
    exact absurd hblank (by decide)
  obtain ⟨l, w, rfl⟩ := List.append_of_mem hrow
  obtain ⟨before, hbefore⟩ := exists_join_append ['\n'] front
    (List.cons_ne_nil (l ++ c :: w ++ ['\r', '\r']) rest)
  have hnonempty : rest ≠ [] := by
    rintro rfl
    exact hrest rfl
  refine ⟨before ++ l, c, w, join ['\n'] rest, hblank, fun hw => hfeed (by simp [hw]),
    (keptRows_ne_nil_iff rest).mp hrest, ?_⟩
  rw [← join_splitOn '\n' t, hpieces, hbefore, join_cons hnonempty]
  simp

theorem dropBlankRows_idempotent_iff (t : Text) :
    dropBlankRows (dropBlankRows t) = dropBlankRows t ↔ ¬ HasDoubledReturn t := by
  rw [dropBlankRows_dropBlankRows, dropReturns_eq_self_iff]
  exact not_congr ⟨hasDoubledReturn_of_kept, HasDoubledReturn.kept⟩

end Text

namespace Table

/-- A statement is parsed as what is left when it is cleaned. -/
theorem parse_eq_of_dropBlankRows_eq {s t : Text}
    (h : Text.dropBlankRows s = Text.dropBlankRows t) : parse s = parse t := by
  unfold parse
  rw [h]

/-- Cleaning a statement twice is cleaning it once exactly if it has no doubled carriage return,
and then it is parsed as the same table or fails in the same way at the same place.  What the
second cleaning takes from any statement is a carriage return in front of each line feed. -/
theorem parse_cleaned (s : Text) :
    (Text.dropBlankRows (Text.dropBlankRows s) = Text.dropBlankRows s ↔ ¬ s.HasDoubledReturn)
      ∧ (¬ s.HasDoubledReturn → parse (Text.dropBlankRows s) = parse s)
      ∧ Text.dropBlankRows (Text.dropBlankRows s) = Text.dropReturns (Text.dropBlankRows s) :=
  ⟨s.dropBlankRows_idempotent_iff,
    fun h => parse_eq_of_dropBlankRows_eq (s.dropBlankRows_idempotent_iff.mpr h),
    s.dropBlankRows_dropBlankRows⟩

/-- A statement with wide line breaks and an empty row. -/
def Sample.wide : Text := "CREATE TABLE\r\n\r\nIF NOT EXISTS \"a\r\nb\" (id int)".toList

theorem parse_cleaned_wide : ¬ Sample.wide.HasDoubledReturn
    ∧ parse (Text.dropBlankRows Sample.wide) = parse Sample.wide
    ∧ parse Sample.wide = .ok ⟨"a\nb".toList, [⟨"id".toList, "int".toList, []⟩]⟩ := by
  have hdoubled : ¬ Sample.wide.HasDoubledReturn :=
    (parse_cleaned Sample.wide).1.mp (by decide +kernel)
  exact ⟨hdoubled, (parse_cleaned Sample.wide).2.1 hdoubled, by decide +kernel⟩

/-- A quoted name keeps one of two carriage returns, and none when it is cleaned twice. -/
theorem not_parse_cleaned : ¬ ∀ s : Text, parse (Text.dropBlankRows s) = parse s := by
  intro h
  have hquoted := h "CREATE TABLE IF NOT EXISTS \"a\r\r\nb\" (id int)".toList
  exact absurd hquoted (by decide +kernel)

end Table

end TableScaffold
