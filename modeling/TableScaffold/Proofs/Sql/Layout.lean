import TableScaffold.Proofs.Sql.Spanning
import TableScaffold.Proofs.Sql.Statement
import TableScaffold.Proofs.Text.Kept

set_option autoImplicit false

/-!
# Statements with wider line breaks

A line feed of a schema that can be read may be replaced by wider white space, that is by a
line break with rows of spaces and tabs behind it.  The schema falls into as many statements
then, and only the one in which the line feed stands is another text (`Splits.widen`), which
is the same without its empty rows (`Widened.map_dropBlankRows`).
-/

namespace TableScaffold.Sql

open Text (isBlank IsSpacing)

variable {d : Char} {g x r : Text} {afterWord : Bool} {pieces pieces' : List Text}

/-! ## Texts that are split -/

/-- A text falls into lexemes, and these into statements with the given texts. -/
def Splits (afterWord : Bool) (t : Text) (pieces : List Text) : Prop :=
  ∃ xs, lexemes afterWord t = .ok xs ∧ (cutAtSemicolons xs).map textOf = pieces

theorem statements_iff_splits {t : Text} : statements t = .ok pieces ↔ Splits false t pieces :=
  statements_eq_ok

/-- The statements of a text that begins with a token of the given text. -/
def leadBy (t : Token) (text : Text) (pieces : List Text) : List Text :=
  if t = .semicolon then [] :: pieces else pieces.modifyHead (text ++ ·)

theorem map_textOf_cutAtSemicolons (l : Lexeme) (xs : List Lexeme) :
    (cutAtSemicolons (l :: xs)).map textOf
      = leadBy l.token l.text ((cutAtSemicolons xs).map textOf) := by
  rw [cutAtSemicolons_cons, leadBy]
  split
  · rfl
  · cases cutAtSemicolons xs <;> simp

theorem splits_cons {c : Char} : Splits afterWord (c :: r) pieces ↔ ∃ t n rest,
    readToken afterWord c r = .ok (t, n) ∧ Splits t.isWord (r.drop n) rest
      ∧ pieces = leadBy t (c :: r.take n) rest := by
  constructor
  · rintro ⟨xs, hxs, rfl⟩
    cases xs with
    | nil => simp [lexemes_eq_ok_nil] at hxs
    | cons l xs =>
      obtain ⟨_, _, n, heq, hread, htext, hrest⟩ := lexemes_cons_iff.mp hxs
      obtain ⟨rfl, rfl⟩ := List.cons.inj heq
      refine ⟨l.token, n, _, hread, ⟨xs, hrest, rfl⟩, ?_⟩
      rw [map_textOf_cutAtSemicolons, htext]
  · rintro ⟨t, n, rest, hread, ⟨xs, hrest, rfl⟩, rfl⟩
    refine ⟨⟨t, c :: r.take n⟩ :: xs,
      lexemes_cons_iff.mpr ⟨c, r, n, rfl, hread, rfl, hrest⟩, ?_⟩
    rw [map_textOf_cutAtSemicolons]

theorem Splits.exists_cons {t : Text} (h : Splits afterWord t pieces) :
    ∃ p ps, pieces = p :: ps := by
  obtain ⟨xs, -, rfl⟩ := h
  refine List.exists_cons_of_ne_nil ?_
  simp [cutAtSemicolons]

/-- A first token that is no semicolon. -/
theorem Splits.lead {c : Char} {t : Token} {n : Nat} (ht : t ≠ .semicolon)
    (hread : readToken afterWord c r = .ok (t, n)) (h : Splits t.isWord (r.drop n) pieces) :
    Splits afterWord (c :: r) (pieces.modifyHead (c :: r.take n ++ ·)) :=
  splits_cons.mpr ⟨t, n, pieces, hread, h, (if_neg ht).symm⟩

theorem splits_newline : Splits afterWord ('\n' :: r) pieces
    ↔ ∃ rest, Splits false r rest ∧ pieces = rest.modifyHead ('\n' :: ·) := by
  rw [splits_cons]
  constructor
  · rintro ⟨t, n, rest, hread, hrest, rfl⟩
    obtain ⟨rfl, rfl⟩ := Prod.mk.inj (Except.ok.inj hread)
    exact ⟨rest, hrest, rfl⟩
  · rintro ⟨rest, hrest, rfl⟩
    exact ⟨.blank, 0, rest, rfl, hrest, rfl⟩

/-! ## White space in front -/

/-- The white space that makes up line breaks and rows of spaces and tabs. -/
def spaceMarks : List Char := [' ', '\t', '\n', '\r']

theorem isBlank_of_mem_spaceMarks : ∀ c ∈ spaceMarks, isBlank c := by decide

theorem blank_ne_semicolon : Token.blank ≠ .semicolon := nofun

/-- One step into white space, which takes a line feed along with a carriage return. -/
theorem readToken_space (afterWord : Bool) {c : Char} (hc : c ∈ spaceMarks) (r : Text) :
    readToken afterWord c r = .ok (.blank, 0)
      ∨ c = '\r' ∧ ∃ s, r = '\n' :: s ∧ readToken afterWord c r = .ok (.blank, 1) := by
  simp only [spaceMarks, List.mem_cons, List.not_mem_nil, or_false] at hc
  rcases hc with rfl | rfl | rfl | rfl
  · exact .inl rfl
  · exact .inl rfl
  · exact .inl rfl
  · by_cases hfeed : ∃ s, r = '\n' :: s
    · obtain ⟨s, rfl⟩ := hfeed
      exact .inr ⟨rfl, s, rfl, rfl⟩
    · exact .inl (readToken_return fun s hs => hfeed ⟨s, hs⟩)

/-- White space up to a line feed is a part of the statement that goes on behind it. -/
theorem Splits.spaces (hg : ∀ c ∈ g, c ∈ spaceMarks) (h : Splits false r pieces) :
    Splits afterWord (g ++ '\n' :: r) (pieces.modifyHead (g ++ ['\n'] ++ ·)) := by
  have hpush (t u : Text) : (pieces.modifyHead (t ++ ·)).modifyHead (u ++ ·)
      = pieces.modifyHead (u ++ t ++ ·) := by
    rw [List.modifyHead_modifyHead]
    simp only [List.append_assoc, Function.comp_def]
  induction hn : g.length using Nat.strongRecOn generalizing g afterWord with
  | ind size ih =>
    cases g with
    | nil => exact splits_newline.mpr ⟨pieces, h, rfl⟩
    | cons c g =>
      rw [List.forall_mem_cons] at hg
      rw [List.length_cons] at hn
      rcases readToken_space afterWord hg.1 (g ++ '\n' :: r) with
        hread | ⟨rfl, s, hs, hread⟩
      · have hlead := Splits.lead blank_ne_semicolon hread (ih g.length (by omega) hg.2 rfl)
        rwa [hpush] at hlead
      · cases g with
        | nil =>
          obtain ⟨-, rfl⟩ := List.cons.inj hs
          exact Splits.lead blank_ne_semicolon hread h
        | cons e g =>
          rw [List.forall_mem_cons] at hg
          rw [List.length_cons] at hn
          have hlead := Splits.lead blank_ne_semicolon hread (ih g.length (by omega) hg.2.2 rfl)
          rwa [hpush] at hlead

/-! ## Widening a line feed -/

/-- The second list of statements is the first one with a gap in place of the line feed behind
the text `x`. -/
inductive Widened (gap : Text) : Text → List Text → List Text → Prop where
  | here (x z : Text) (pieces : List Text) :
    Widened gap x ((x ++ '\n' :: z) :: pieces) ((x ++ (gap ++ z)) :: pieces)
  | behind {x : Text} {pieces pieces' : List Text} (p : Text) (h : Widened gap x pieces pieces') :
    Widened gap (p ++ ';' :: x) (p :: pieces) (p :: pieces')

namespace Widened

variable {gap : Text}

/-- A text in front of the first statement. -/
theorem push (u : Text) (h : Widened gap x pieces pieces') :
    Widened gap (u ++ x) (pieces.modifyHead (u ++ ·)) (pieces'.modifyHead (u ++ ·)) := by
  cases h with
  | here x z pieces =>
    have hhere : Widened gap (u ++ x) _ _ := here (u ++ x) z pieces
    rwa [List.append_assoc, List.append_assoc] at hhere
  | behind p h =>
    have hbehind := behind (u ++ p) h
    rwa [List.append_assoc] at hbehind

theorem leadBy {c : Char} {t : Token} {n : Nat} (hread : readToken afterWord c x = .ok (t, n))
    (h : Widened gap (x.drop n) pieces pieces') :
    Widened gap (c :: x) (leadBy t (c :: x.take n) pieces) (leadBy t (c :: x.take n) pieces') := by
  unfold Sql.leadBy
  split
  · next ht =>
    rw [ht] at hread
    obtain ⟨rfl, rfl⟩ := of_readToken_semicolon hread
    exact behind [] h
  · have hpush := h.push (c :: x.take n)
    rwa [List.cons_append, List.take_append_drop] at hpush

/-- Without empty rows, the statements are the same. -/
theorem map_dropBlankRows (hgap : IsSpacing gap) (hx : x.getLast? ≠ some '\r')
    (h : Widened gap x pieces pieces') :
    pieces'.map Text.dropBlankRows = pieces.map Text.dropBlankRows := by
  induction h with
  | here x z pieces => rw [List.map_cons, List.map_cons, hgap.dropBlankRows hx]
  | @behind x pieces pieces' p _ ih =>
    have hlast : x.getLast? ≠ some '\r' := by
      intro h
      rw [List.getLast?_append, List.getLast?_cons, h] at hx
      exact hx rfl
    rw [List.map_cons, List.map_cons, ih hlast]

end Widened

theorem waits_of_waits_newline {t : Text} (ht : t.getLast? ≠ some '\r') (h : Waits '\n' t) :
    Waits d t := by
  refine h.imp_right (Or.imp_right ?_)
  rintro ⟨rfl, -⟩
  exact absurd rfl ht

theorem waits_newline {t : Text} (h : Waits d t) : Waits '\n' t :=
  h.imp_right (Or.imp_right fun h => ⟨h.1, rfl⟩)

section

variable (hd : d ∈ lineEnds) (hg : ∀ c ∈ d :: g, c ∈ spaceMarks) {c : Char} {t : Token}
include hd

/-- A token that takes the line feed takes the beginning of wider white space. -/
theorem widen_waits (hg : ∀ c ∈ g, c ∈ spaceMarks) (hwaits : Waits '\n' (c :: x))
    (hlast : (c :: x).getLast? ≠ some '\r') (hclosed : readToken afterWord c x = .ok (t, x.length))
    (hrest : Splits t.isWord r pieces) :
    ∃ pieces', Splits afterWord (c :: (x ++ (d :: g ++ '\n' :: r))) pieces'
      ∧ Widened (d :: g ++ ['\n']) (c :: x)
        (leadBy t (c :: (x ++ '\n' :: r).take (x.length + 1)) pieces) pieces' := by
  obtain ⟨t', hword, hcut, hclosed', hover⟩ :=
    readToken_of_waits afterWord hd (waits_of_waits_newline hlast hwaits)
  obtain ⟨rfl, -⟩ := Prod.mk.inj (Except.ok.inj (hclosed.symm.trans hclosed'))
  obtain ⟨z, ps, rfl⟩ := hrest.exists_cons
  rw [hword] at hrest
  have hbehind : Splits t.isWord ((x ++ d :: (g ++ '\n' :: r)).drop (x.length + 1))
      ((z :: ps).modifyHead (g ++ ['\n'] ++ ·)) := by
    rw [List.drop_length_add_append, hword]
    exact hrest.spaces hg
  refine ⟨_, .lead hcut (hover _) hbehind, ?_⟩
  rw [leadBy, if_neg hcut, List.take_length_add_append, List.take_length_add_append]
  have hhere : Widened (d :: g ++ ['\n']) (c :: x) _ _ := .here (c :: x) z ps
  simpa using hhere

include hg

/-- A token that goes on behind the line feed goes on behind wider white space. -/
theorem widen_over {n : Nat} {fault : LexFault × Nat}
    (hread : readToken afterWord c (x ++ '\n' :: r) = .ok (t, n)) (hlt : x.length < n)
    (hfault : readToken afterWord c x = .error fault)
    (hrest : Splits t.isWord ((x ++ '\n' :: r).drop n) pieces) :
    ∃ pieces', Splits afterWord (c :: (x ++ (d :: g ++ '\n' :: r))) pieces'
      ∧ Widened (d :: g ++ ['\n']) (c :: x)
        (leadBy t (c :: (x ++ '\n' :: r).take n) pieces) pieces' := by
  have hblank : ∀ c ∈ d :: g, isBlank c := fun c hc => isBlank_of_mem_spaceMarks c (hg c hc)
  have hspans := readToken_spans (lineEnds_subset hd) hblank (beginsFeed_cons r) hfault
  rw [hread] at hspans
  have hcut : t ≠ .semicolon := by
    rintro rfl
    obtain ⟨-, rfl⟩ := of_readToken_semicolon hread
    omega
  generalize hlong : readToken afterWord c (x ++ (d :: g ++ '\n' :: r)) = long at hspans
  cases hspans with
  | within hle => omega
  | @past t' _ n' _ k _ hn hn' hsame =>
    obtain ⟨j, rfl⟩ : ∃ j, k = j + 1 := ⟨k - 1, by omega⟩
    subst hn hn'
    obtain ⟨z, ps, rfl⟩ := hrest.exists_cons
    rw [List.drop_length_add_append] at hrest
    have hbehind : Splits t'.isWord
        ((x ++ (d :: g ++ '\n' :: r)).drop (x.length + (d :: g).length + (j + 1))) (z :: ps) := by
      rw [Nat.add_assoc, List.drop_length_add_append, List.drop_length_add_append,
        ← hsame.isWord_eq]
      exact hrest
    refine ⟨_, .lead (mt hsame.eq_semicolon_iff.mp hcut) hlong hbehind, ?_⟩
    rw [leadBy, if_neg hcut, List.take_length_add_append, Nat.add_assoc,
      List.take_length_add_append, List.take_length_add_append]
    have hhere : Widened (d :: g ++ ['\n']) (c :: x) _ _ := .here (c :: x) (r.take j ++ z) ps
    simpa using hhere

/-- A line feed becomes wider white space: the schema is split into the same statements but for
that one. -/
theorem Splits.widen (hx : x.getLast? ≠ some '\r') (h : Splits afterWord (x ++ '\n' :: r) pieces) :
    ∃ pieces', Splits afterWord (x ++ (d :: g ++ '\n' :: r)) pieces'
      ∧ Widened (d :: g ++ ['\n']) x pieces pieces' := by
  induction hn : x.length using Nat.strongRecOn generalizing x afterWord pieces with
  | ind size ih =>
    cases x with
    | nil =>
      obtain ⟨rest, hrest, rfl⟩ := splits_newline.mp h
      obtain ⟨z, ps, rfl⟩ := hrest.exists_cons
      exact ⟨_, hrest.spaces hg, .here [] z ps⟩
    | cons c x =>
      rw [List.cons_append] at h ⊢
      obtain ⟨t, n, rest, hread, hrest, rfl⟩ := splits_cons.mp h
      rcases readToken_cut (d := '\n') (by decide) hread with ⟨hle, hclosed, hwaits⟩ |
        ⟨hwaits, rfl, hclosed⟩ | ⟨hlt, fault, hfault⟩
      · obtain ⟨hlong, -⟩ := (readToken_append (lineEnds_subset hd) afterWord c x
          (g ++ '\n' :: r) t n).mpr ⟨hclosed, fun heq => mt waits_newline (hwaits heq)⟩
        have hlast : (x.drop n).getLast? ≠ some '\r' := by
          intro h
          rw [List.getLast?_drop] at h
          split at h
          · cases h
          · rw [List.getLast?_cons, h] at hx
            exact hx rfl
        rw [List.drop_append_of_le_length hle] at hrest
        obtain ⟨rest', hrest', hwidened⟩ := ih (x.drop n).length (by
          rw [List.length_drop, ← hn, List.length_cons]
          omega) hlast hrest rfl
        refine ⟨leadBy t (c :: x.take n) rest', ?_, ?_⟩
        · refine splits_cons.mpr ⟨t, n, rest', hlong, ?_, ?_⟩
          · rwa [List.drop_append_of_le_length hle]
          · rw [List.take_append_of_le_length hle]
        · rw [List.take_append_of_le_length hle]
          exact hwidened.leadBy hclosed
      · rw [List.drop_length_add_append] at hrest
        exact widen_waits hd (List.forall_mem_cons.mp hg).2 hwaits hx hclosed hrest
      · exact widen_over hd hg hread hlt hfault hrest

end

end TableScaffold.Sql
