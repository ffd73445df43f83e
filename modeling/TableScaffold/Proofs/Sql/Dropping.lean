import TableScaffold.Proofs.Sql.Spanning
import TableScaffold.Proofs.Text.Kept

set_option autoImplicit false

/-!
# Texts without their empty rows

A token in front of white space that begins with a line end stops before it, takes that
line end, or spans the white space (`readToken_cases`).  So the white space between two rows
can be left out up to one line feed (`LexesInto.leave_gap`), that at the end altogether
(`LexesInto.leave_end`), and that at the beginning too (`LexesInto.skip`).  Dropping the empty
rows of a text does all three, row by row: a text that can be read can be read without them
(`lexes_dropBlankRows`), and a text of blanks remains one (`lexesInto_dropBlankRows`).
-/

namespace TableScaffold.Sql

open Text (isBlank keptRows keptRows_singleton keptRows_cons_cons)

variable {d : Char} {g s x : Text} {afterWord : Bool} {P : Token → Prop}

/-! ## Texts that can be read -/

/-- A text falls into lexemes. -/
def Lexes (afterWord : Bool) (t : Text) : Prop := ∃ xs, lexemes afterWord t = .ok xs

/-- A text falls into lexemes the tokens of which have a property. -/
def LexesInto (P : Token → Prop) (afterWord : Bool) (t : Text) : Prop :=
  ∃ xs, lexemes afterWord t = .ok xs ∧ ∀ l ∈ xs, P l.token

/-- A property of tokens that blanks have and that does not ask for the names between quotes. -/
structure IsCoarse (P : Token → Prop) : Prop where
  blank : P .blank
  same {t t' : Token} : SameKind t t' → P t → P t'

theorem isCoarse_blank : IsCoarse (· = .blank) where
  blank := rfl
  same := by
    rintro t t' h rfl
    cases h
    rfl

theorem lexesInto_true : LexesInto (fun _ => True) afterWord x ↔ Lexes afterWord x := by
  simp [LexesInto, Lexes]

theorem lexesInto_nil (P : Token → Prop) (afterWord : Bool) : LexesInto P afterWord [] :=
  ⟨[], by rw [lexemes], List.forall_mem_nil _⟩

theorem lexesInto_cons {c : Char} {r : Text} : LexesInto P afterWord (c :: r)
    ↔ ∃ t n, readToken afterWord c r = .ok (t, n) ∧ P t ∧ LexesInto P t.isWord (r.drop n) := by
  constructor
  · rintro ⟨xs, hxs, hall⟩
    cases xs with
    | nil => simp [lexemes_eq_ok_nil] at hxs
    | cons l xs =>
      rw [List.forall_mem_cons] at hall
      obtain ⟨_, _, n, heq, hread, -, hrest⟩ := lexemes_cons_iff.mp hxs
      obtain ⟨rfl, rfl⟩ := List.cons.inj heq
      exact ⟨l.token, n, hread, hall.1, xs, hrest, hall.2⟩
  · rintro ⟨t, n, hread, ht, xs, hrest, hall⟩
    exact ⟨⟨t, c :: r.take n⟩ :: xs, lexemes_cons_iff.mpr ⟨c, r, n, rfl, hread, rfl, hrest⟩,
      List.forall_mem_cons.mpr ⟨ht, hall⟩⟩

theorem LexesInto.of_newline {r : Text} (h : LexesInto P afterWord ('\n' :: r)) :
    LexesInto P false r := by
  obtain ⟨t, n, hread, -, hrest⟩ := lexesInto_cons.mp h
  obtain ⟨rfl, rfl⟩ := Prod.mk.inj (Except.ok.inj hread)
  exact hrest

theorem LexesInto.newline {r : Text} (hP : IsCoarse P) (h : LexesInto P false r) :
    LexesInto P afterWord ('\n' :: r) :=
  lexesInto_cons.mpr ⟨.blank, 0, rfl, hP.blank, h⟩

theorem readWord_of_isBlank {c : Char} (hc : isBlank c) (r : Text) :
    readWord c r = readName c r := by
  have hletter : ∀ c ∈ blanks, c ∉ ['b', 'B', 'n', 'N', 'x', 'X', 'e', 'E', 'u', 'U'] := by decide
  have hne := hletter c (mem_blanks hc)
  unfold readWord
  split <;> simp_all

/-- White space in front of a line end: a character is a token, or begins a word of such
characters, or makes up the line end together with the line feed. -/
theorem readToken_of_isBlank {c : Char} (hc : isBlank c) {r : Text} {t : Token} {n : Nat}
    (h : readToken afterWord c (g ++ '\n' :: r) = .ok (t, n)) :
    n ≤ g.length ∨ g = [] ∧ n = 1 ∧ t.isWord = false := by
  have hread {t' : Token} {k : Nat} (hk : k ≤ g.length)
      (h : (Except.ok (t', k) : Reading) = .ok (t, n)) : n ≤ g.length := by
    obtain ⟨-, rfl⟩ := Prod.mk.inj (Except.ok.inj h)
    exact hk
  by_cases hmark : c ∈ marks
  · have hspaces : ∀ c ∈ blanks, c ∈ marks → c ∈ [' ', '\t', '\n', '\r'] := by decide
    have hmem := hspaces c (mem_blanks hc) hmark
    simp only [List.mem_cons, List.not_mem_nil, or_false] at hmem
    rcases hmem with rfl | rfl | rfl | rfl
    · exact .inl (hread (Nat.zero_le _) h)
    · exact .inl (hread (Nat.zero_le _) h)
    · exact .inl (hread (Nat.zero_le _) h)
    · cases g with
      | nil =>
        obtain ⟨rfl, rfl⟩ := Prod.mk.inj (Except.ok.inj h)
        exact .inr ⟨rfl, rfl, rfl⟩
      | cons e g =>
        left
        by_cases he : e = '\n'
        · subst he
          exact hread (Nat.le_add_left 1 _) h
        · rw [List.cons_append, readToken_return (by simp [he])] at h
          exact hread (Nat.zero_le _) h
  · have hother : ∀ c ∈ blanks, c ≠ '-' ∧ c ≠ '/' ∧ (c.isDigit || c = '.') = false := by decide
    obtain ⟨hdash, hslash, hdigit⟩ := hother c (mem_blanks hc)
    rw [readToken_other hmark (absurd · hdash) (absurd · hslash), hdigit,
      if_neg Bool.false_ne_true, readWord_of_isBlank hc, if_pos hc] at h
    left
    split at h
    · rw [readName, takeWhile_append_stop (by decide)] at h
      exact hread (length_takeWhile_le _ _) h
    · exact hread (Nat.zero_le _) h

/-- White space up to a line end does not matter for what stands behind it. -/
theorem LexesInto.skip (hg : ∀ c ∈ g, isBlank c) {r : Text}
    (h : LexesInto P afterWord (g ++ '\n' :: r)) : LexesInto P false r := by
  induction hn : g.length using Nat.strongRecOn generalizing g afterWord with
  | ind size ih =>
    cases g with
    | nil => exact h.of_newline
    | cons c g =>
      rw [List.forall_mem_cons] at hg
      rw [List.cons_append] at h
      obtain ⟨t, n, hread, -, hrest⟩ := lexesInto_cons.mp h
      rcases readToken_of_isBlank hg.1 hread with hle | ⟨rfl, rfl, ht⟩
      · rw [List.drop_append_of_le_length hle] at hrest
        refine ih (g.drop n).length ?_ (fun e he => hg.2 e (List.mem_of_mem_drop he)) hrest rfl
        rw [List.length_drop, ← hn, List.length_cons]
        omega
      · rw [ht] at hrest
        exact hrest

/-! ## Leaving out a gap -/

/-- How a token is read in front of white space that begins with a line end: it ends before
it, or takes that line end only, or spans the white space. -/
theorem readToken_cases (hd : d ∈ lineEnds) (hg : ∀ c ∈ d :: g, isBlank c) (hs : BeginsFeed s)
    {c : Char} {t : Token} {n : Nat} (h : readToken afterWord c (x ++ (d :: g ++ s)) = .ok (t, n)) :
    (n ≤ x.length ∧ readToken afterWord c x = .ok (t, n) ∧ (n = x.length → ¬ Waits d (c :: x)))
      ∨ (Waits d (c :: x) ∧ n = x.length + 1 ∧ readToken afterWord c x = .ok (t, x.length))
      ∨ s ≠ [] ∧ ∃ t' k, n = x.length + (d :: g).length + k
        ∧ readToken afterWord c (x ++ s) = .ok (t', x.length + k) ∧ SameKind t t' := by
  rcases readToken_cut hd (by rwa [List.cons_append] at h) with hin | hwaits | ⟨hlt, fault, hfault⟩
  · exact .inl hin
  · exact .inr (.inl hwaits)
  · have hspans := readToken_spans (lineEnds_subset hd) hg hs hfault
    rw [h] at hspans
    generalize hshort : readToken afterWord c (x ++ s) = short at hspans
    cases hspans with
    | within hle => omega
    | past k hs hn hn' ht =>
      refine .inr (.inr ⟨hs, _, k, hn, ?_, ht⟩)
      rw [hn']

/-- White space at the end can be left out, from a line end on. -/
theorem LexesInto.leave_end (hd : d ∈ lineEnds) (hg : ∀ c ∈ d :: g, isBlank c)
    (h : LexesInto P afterWord (x ++ d :: g)) : LexesInto P afterWord x := by
  induction hn : x.length using Nat.strongRecOn generalizing x afterWord with
  | ind size ih =>
    cases x with
    | nil => exact lexesInto_nil P afterWord
    | cons c x =>
      rw [List.cons_append] at h
      obtain ⟨t, n, hread, ht, hrest⟩ := lexesInto_cons.mp h
      have hcases := readToken_cases hd hg beginsFeed_nil (by rwa [List.append_nil])
      rcases hcases with ⟨hle, hread', -⟩ | ⟨-, -, hread'⟩ | ⟨hs, -⟩
      · rw [List.drop_append_of_le_length hle] at hrest
        refine lexesInto_cons.mpr ⟨t, n, hread', ht, ih (x.drop n).length ?_ hrest rfl⟩
        rw [List.length_drop, ← hn, List.length_cons]
        omega
      · refine lexesInto_cons.mpr ⟨t, x.length, hread', ht, ?_⟩
        rw [List.drop_length]
        exact lexesInto_nil P _
      · contradiction

/-- White space between a line end and a line feed can be left out. -/
theorem LexesInto.leave_gap (hP : IsCoarse P) (hd : d ∈ lineEnds) (hg : ∀ c ∈ d :: g, isBlank c)
    {r : Text} (h : LexesInto P afterWord (x ++ (d :: g ++ '\n' :: r))) :
    LexesInto P afterWord (x ++ '\n' :: r) := by
  have hfeed : '\n' ∈ lineEnds := List.mem_cons_self
  induction hn : x.length using Nat.strongRecOn generalizing x afterWord with
  | ind size ih =>
    cases x with
    | nil => exact (h.skip hg).newline hP
    | cons c x =>
      rw [List.cons_append] at h ⊢
      obtain ⟨t, n, hread, ht, hrest⟩ := lexesInto_cons.mp h
      -- what is left from the gap on is white space up to the line feed
      have htakes (hwaits : Waits '\n' (c :: x)) (hclosed : readToken afterWord c x = .ok (t, x.length))
          (hle : x.length ≤ n) (hn : n ≤ x.length + (d :: g).length) :
          LexesInto P afterWord (c :: (x ++ '\n' :: r)) := by
        obtain ⟨t', ht', -, hclosed', hover⟩ := readToken_of_waits afterWord hfeed hwaits
        obtain ⟨rfl, -⟩ := Prod.mk.inj (Except.ok.inj (hclosed.symm.trans hclosed'))
        obtain ⟨k, rfl⟩ := Nat.exists_eq_add_of_le hle
        rw [List.drop_length_add_append,
          List.drop_append_of_le_length (Nat.le_of_add_le_add_left hn)] at hrest
        refine lexesInto_cons.mpr ⟨t, x.length + 1, hover r, ht, ?_⟩
        rw [List.drop_length_add_append, ht']
        exact hrest.skip fun e he => hg e (List.mem_of_mem_drop he)
      rcases readToken_cases hd hg (beginsFeed_cons r) hread with ⟨hle, hread', -⟩ |
        ⟨hwaits, rfl, hclosed⟩ | ⟨-, t', k, rfl, hread', hsame⟩
      · by_cases hwaits : n = x.length ∧ Waits '\n' (c :: x)
        · refine htakes hwaits.2 ?_ (Nat.le_of_eq hwaits.1.symm) (Nat.le_add_right_of_le hle)
          rw [hread', hwaits.1]
        · obtain ⟨hread, -⟩ := (readToken_append (lineEnds_subset hfeed) afterWord c x r t n).mpr
            ⟨hread', fun hn hw => hwaits ⟨hn, hw⟩⟩
          refine lexesInto_cons.mpr ⟨t, n, hread, ht, ?_⟩
          rw [List.drop_append_of_le_length hle] at hrest ⊢
          refine ih (x.drop n).length ?_ hrest rfl
          rw [List.length_drop, ← hn, List.length_cons]
          omega
      · refine htakes (hwaits.imp_right (Or.imp_right fun h => ⟨h.1, rfl⟩)) hclosed
          (Nat.le_add_right _ 1) ?_
        rw [List.length_cons]
        omega
      · refine lexesInto_cons.mpr ⟨t', x.length + k, hread', hP.same hsame ht, ?_⟩
        rw [Nat.add_assoc, List.drop_length_add_append, List.drop_length_add_append] at hrest
        rw [List.drop_length_add_append, hsame.isWord_eq]
        exact hrest

/-! ## Leaving out empty rows -/

/-- White space from the end of a row to the beginning of another. -/
inductive IsGap : Text → Prop where
  | feed : IsGap ['\n']
  | wide {d : Char} {g : Text} : d ∈ lineEnds → (∀ c ∈ d :: g, isBlank c) →
    IsGap (d :: g ++ ['\n'])

namespace IsGap

variable {gap row : Text}

theorem blank (h : IsGap gap) : ∃ d g, gap = d :: g ∧ d ∈ lineEnds ∧ ∀ c ∈ d :: g, isBlank c := by
  cases h with
  | feed => exact ⟨'\n', [], rfl, by decide, by decide⟩
  | @wide d g hd hg =>
    refine ⟨d, g ++ ['\n'], rfl, hd, ?_⟩
    rw [← List.cons_append, List.forall_mem_append]
    exact ⟨hg, by decide⟩

/-- A gap goes on with an empty row. -/
theorem append (h : IsGap gap) (hrow : ∀ c ∈ row, isBlank c) : IsGap (gap ++ row ++ ['\n']) := by
  obtain ⟨d, g, rfl, hd, hg⟩ := h.blank
  exact .wide hd (List.forall_mem_append.mpr ⟨hg, hrow⟩)

/-- The end of a row that more rows follow. -/
theorem exists_dropFinalReturn (row : Text) :
    ∃ gap, IsGap gap ∧ row ++ ['\n'] = Text.dropFinalReturn row ++ gap := by
  rcases Text.dropFinalReturn_cases row with heq | heq
  · exact ⟨['\n'], .feed, by rw [heq]⟩
  · refine ⟨['\r', '\n'], .wide (g := []) (by decide) (by decide), ?_⟩
    conv => lhs; rw [heq, List.append_assoc]
    rfl

theorem lexes (hP : IsCoarse P) (h : IsGap gap) {r : Text}
    (hr : LexesInto P afterWord (x ++ (gap ++ r))) : LexesInto P afterWord (x ++ '\n' :: r) := by
  cases h with
  | feed => exact hr
  | wide hd hg =>
    rw [List.append_assoc] at hr
    exact hr.leave_gap hP hd hg

theorem lexes_end (h : IsGap gap) (hrow : ∀ c ∈ row, isBlank c)
    (hr : LexesInto P afterWord (x ++ (gap ++ row))) : LexesInto P afterWord x := by
  obtain ⟨d, g, rfl, hd, hg⟩ := h.blank
  exact hr.leave_end hd (List.forall_mem_append.mpr ⟨hg, hrow⟩)

end IsGap

theorem join_cons_row (x row : Text) (rows : List Text) :
    Text.join ['\n'] (x :: row :: rows) = Text.join ['\n'] ((x ++ '\n' :: row) :: rows) := by
  cases rows <;> simp

/-- The rows behind a kept one, with a gap between. -/
theorem lexesInto_keptRows_behind (hP : IsCoarse P) {pieces : List Text} (hne : pieces ≠ [])
    {gap : Text} (hgap : IsGap gap) (h : LexesInto P false (x ++ (gap ++ Text.join ['\n'] pieces))) :
    LexesInto P false (Text.join ['\n'] (x :: keptRows pieces)) := by
  induction pieces generalizing x gap with
  | nil => exact absurd rfl hne
  | cons row pieces ih =>
    cases pieces with
    | nil =>
      rw [Text.join_singleton] at h
      rw [keptRows_singleton]
      split
      · next hblank => exact hgap.lexes_end (Text.isBlank_of_isBlankRow hblank) h
      · rw [join_cons_row]
        exact hgap.lexes hP h
    | cons row' pieces =>
      rw [Text.join_cons_cons] at h
      rw [keptRows_cons_cons, Text.isBlankRow_dropFinalReturn]
      split
      · next hblank =>
        refine ih (List.cons_ne_nil _ _) (hgap.append (Text.isBlank_of_isBlankRow hblank)) ?_
        simpa using h
      · obtain ⟨gap', hgap', heq⟩ := IsGap.exists_dropFinalReturn row
        rw [join_cons_row]
        refine ih (List.cons_ne_nil _ _) hgap' ?_
        have := hgap.lexes hP h
        rw [heq] at this
        simpa using this

theorem lexesInto_keptRows (hP : IsCoarse P) {pieces : List Text} (hne : pieces ≠ [])
    (h : LexesInto P false (Text.join ['\n'] pieces)) :
    LexesInto P false (Text.join ['\n'] (keptRows pieces)) := by
  induction pieces with
  | nil => exact absurd rfl hne
  | cons row pieces ih =>
    cases pieces with
    | nil =>
      rw [keptRows_singleton]
      split
      · exact lexesInto_nil P false
      · exact h
    | cons row' pieces =>
      rw [Text.join_cons_cons] at h
      rw [keptRows_cons_cons, Text.isBlankRow_dropFinalReturn]
      split
      · next hblank =>
        rw [List.append_assoc] at h
        exact ih (List.cons_ne_nil _ _) (h.skip (Text.isBlank_of_isBlankRow hblank))
      · obtain ⟨gap, hgap, heq⟩ := IsGap.exists_dropFinalReturn row
        refine lexesInto_keptRows_behind hP (List.cons_ne_nil _ _) hgap ?_
        rw [heq, List.append_assoc] at h
        exact h

/-- A text that can be read can be read without its empty rows, and what is said of its tokens
remains true. -/
theorem lexesInto_dropBlankRows (hP : IsCoarse P) {t : Text} (h : LexesInto P false t) :
    LexesInto P false (Text.dropBlankRows t) := by
  refine lexesInto_keptRows hP (Text.splitBy_ne_nil _ t) ?_
  rwa [Text.join_splitOn]

/-- A text that can be read can be read without its empty rows. -/
theorem lexes_dropBlankRows {t : Text} (h : Lexes false t) : Lexes false (Text.dropBlankRows t) :=
  lexesInto_true.mp (lexesInto_dropBlankRows ⟨trivial, fun _ => id⟩ (lexesInto_true.mpr h))

end TableScaffold.Sql
