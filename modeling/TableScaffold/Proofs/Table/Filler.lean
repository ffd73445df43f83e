import TableScaffold.Proofs.Table.Joined

set_option autoImplicit false

/-!
# Filler around statements

Filler is what may stand between the statements of a schema, on rows of its own: white space,
comments that are complete, and semicolons.  It is read as blanks and semicolons
(`IsFilling.lexesInto`), so it falls into statements without tokens
(`exists_blank_statements`).  Where filler is put in front of a statement or behind it, one of the
statements that come of it has the tokens of the one that was there, also without its empty
rows, and the others have none (`exists_pads_front`, `exists_pads_behind`).
-/

namespace TableScaffold.Sql

open Text (Returned)

variable {f r s t x : Text} {pieces : List Text}

/-! ## Filler -/

/-- The characters that are white space in ASCII. -/
def asciiSpaces : List Char := [' ', '\t', '\n', '\x0b', '\x0c', '\r']

/-- White space, block comments that are closed with all that are open within them, line comments
with their line ends, and semicolons. -/
inductive IsFilling : Text → Prop where
  | nil : IsFilling []
  | space {c : Char} {r : Text} (hc : c ∈ asciiSpaces) (h : IsFilling r) : IsFilling (c :: r)
  | block {body r : Text} (hbody : blockCommentLength 0 body = some body.length)
    (h : IsFilling r) : IsFilling ('/' :: '*' :: (body ++ r))
  | line {body r : Text} {e : Char} (hbody : ∀ c ∈ body, c ≠ '\n' ∧ c ≠ '\r') (he : e ∈ lineEnds)
    (h : IsFilling r) : IsFilling ('-' :: '-' :: (body ++ e :: r))
  | semicolon {r : Text} (h : IsFilling r) : IsFilling (';' :: r)

/-- Filling that begins and ends with a line break. -/
structure IsFiller (f : Text) : Prop where
  filling : IsFilling f
  begins : ∃ b ∈ Text.lineBreaks, b <+: f
  ends : ∃ b ∈ Text.lineBreaks, b <:+ f

/-- What filler is read as. -/
def IsFillerToken (t : Token) : Prop := t = .blank ∨ t = .semicolon

theorem isCoarse_isFillerToken : IsCoarse IsFillerToken where
  blank := .inl rfl
  same := by
    rintro t t' h (rfl | rfl)
    · cases h
      exact .inl rfl
    · cases h
      exact .inr rfl

theorem readToken_asciiSpace {c : Char} (hc : c ∈ asciiSpaces) (hreturn : c ≠ '\r')
    (afterWord : Bool) (r : Text) : readToken afterWord c r = .ok (.blank, 0) := by
  simp only [asciiSpaces, List.mem_cons, List.not_mem_nil, or_false] at hc
  rcases hc with rfl | rfl | rfl | rfl | rfl | rfl
  · rfl
  · rfl
  · rfl
  · rfl
  · rfl
  · exact absurd rfl hreturn

/-- A block comment that is closed ends where it is closed. -/
theorem blockCommentLength_append_of_closed {body : Text}
    (h : blockCommentLength 0 body = some body.length) (r : Text) :
    blockCommentLength 0 (body ++ r) = some body.length := by
  cases r with
  | nil => rw [List.append_nil, h]
  | cons d r => exact ((blockCommentLength_append 0 body r body.length).mpr h).1

/-- Filler is read as blanks and semicolons. -/
theorem IsFilling.lexesInto (h : IsFilling f) : LexesInto IsFillerToken false f := by
  have hblank : IsFillerToken .blank := isCoarse_isFillerToken.blank
  induction h with
  | nil => exact lexesInto_nil _ _
  | @space c r hc _ ih =>
    by_cases hreturn : c = '\r'
    · subst hreturn
      by_cases hfeed : ∃ s, r = '\n' :: s
      · obtain ⟨s, rfl⟩ := hfeed
        exact lexesInto_cons.mpr ⟨.blank, 1, rfl, hblank, ih.of_newline⟩
      · have hread : readToken false '\r' r = .ok (.blank, 0) :=
          readToken_return fun s hs => hfeed ⟨s, hs⟩
        exact lexesInto_cons.mpr ⟨.blank, 0, hread, hblank, ih⟩
    · exact lexesInto_cons.mpr ⟨.blank, 0, readToken_asciiSpace hc hreturn false r, hblank, ih⟩
  | @block body r hbody _ ih =>
    have hread : readToken false '/' ('*' :: (body ++ r)) = .ok (.blank, body.length + 1) := by
      refine readToken_block.mpr ⟨rfl, ?_⟩
      rw [blockCommentLength_append_of_closed hbody]
      rfl
    refine lexesInto_cons.mpr ⟨.blank, body.length + 1, hread, hblank, ?_⟩
    rw [List.drop_succ_cons, List.drop_left]
    exact ih
  | @line body r e hbody he _ ih =>
    have hend : e = '\n' ∨ e = '\r' := by simpa [lineEnds] using he
    have hread : readToken false '-' ('-' :: (body ++ e :: r)) = .ok (.blank, body.length + 1 + 1) := by
      rw [readToken, lineCommentLength_append_end hbody hend]
    refine lexesInto_cons.mpr ⟨.blank, body.length + 1 + 1, hread, hblank, ?_⟩
    rw [List.drop_succ_cons, List.drop_length_add_append]
    exact ih
  | semicolon _ ih => exact lexesInto_cons.mpr ⟨.semicolon, 0, rfl, .inr rfl, ih⟩

/-! ## Statements of filler -/

/-- What is said of the tokens of a schema is said of those of its statements. -/
theorem LexesInto.of_mem_statements {P : Token → Prop} (h : LexesInto P false t)
    (hpieces : statements t = .ok pieces) : ∀ s ∈ pieces, LexesInto P false s := by
  induction pieces generalizing t with
  | nil => exact List.forall_mem_nil _
  | cons s pieces ih =>
    have htext := join_statements hpieces
    cases pieces with
    | nil => rwa [List.forall_mem_singleton, ← Text.join_singleton [';'] s, htext]
    | cons s' pieces =>
      rw [Text.join_cons_cons, List.append_assoc, List.singleton_append] at htext
      rw [← htext] at hpieces h
      obtain ⟨hs, hcomment, hoperator, hrest⟩ := statements_cons.mp hpieces
      obtain ⟨xs, hxs, -⟩ := statements_eq_singleton.mp hs
      obtain ⟨ys, hys, -⟩ := statements_eq_ok.mp hrest
      obtain ⟨zs, hzs, hall⟩ := h
      have hsettled := (not_waits_semicolon hxs).mpr ⟨hcomment, hoperator⟩
      have hboth := lexemes_append_of (d := ';') (by decide) hxs hsettled
        (lexemes_semicolon.mpr ⟨ys, rfl, hys⟩)
      obtain rfl := Except.ok.inj (hzs.symm.trans hboth)
      rw [List.forall_mem_append, List.forall_mem_cons] at hall
      exact List.forall_mem_cons.mpr ⟨⟨xs, hxs, hall.1⟩, ih ⟨ys, hys, hall.2.2⟩ hrest⟩

/-- A text of blanks and semicolons falls into statements without tokens. -/
theorem exists_blank_statements (h : LexesInto IsFillerToken false f) :
    ∃ pieces, statements f = .ok pieces ∧ ∀ s ∈ pieces, HasTokens s [] := by
  obtain ⟨xs, hxs, -⟩ := id h
  refine ⟨_, statements_eq_ok.mpr ⟨xs, hxs, rfl⟩, ?_⟩
  intro s hs
  have hpieces := statements_eq_ok.mpr ⟨xs, hxs, rfl⟩
  obtain ⟨ys, hys, hall⟩ := h.of_mem_statements hpieces s hs
  obtain ⟨zs, hzs, hcut⟩ := statements_eq_singleton.mp (statements_of_mem hpieces hs)
  obtain rfl := Except.ok.inj (hys.symm.trans hzs)
  exact ⟨ys, hys, solidTokens_eq_nil.mpr fun l hl => (hall l hl).resolve_right (hcut l hl)⟩

/-! ## Statements with filler around -/

/-- The second text, without its empty rows, has the tokens of the first one, no matter whether
they are dropped once or twice. -/
structure KeepsTokens (s s' : Text) : Prop where
  once {ts : List Token} : HasTokens (Text.dropBlankRows s) ts → HasTokens (Text.dropBlankRows s') ts
  twice {ts : List Token} : HasTokens (Text.dropBlankRows (Text.dropBlankRows s)) ts →
    HasTokens (Text.dropBlankRows (Text.dropBlankRows s')) ts

/-- The given statements make up a text, and one of them has the tokens of the statement `s` while
the others have none.  They can stand where `s` stands. -/
structure Pads (s t : Text) (pieces : List Text) : Prop where
  text : Text.join [';'] pieces = t
  single : ∀ p ∈ pieces, statements p = .ok [p]
  settled : ∀ p ∈ pieces.dropLast, IsSettled p
  last : IsSettled s → ∀ p ∈ pieces.getLast?, IsSettled p
  keeps : ∃ before s' behind, pieces = before ++ s' :: behind ∧ KeepsTokens s s'
    ∧ (∀ p ∈ before, HasTokens p []) ∧ ∀ p ∈ behind, HasTokens p []

/-- A text with blanks behind it. -/
theorem KeepsTokens.behind (h : Returned s x) (hr : HasTokens r []) :
    KeepsTokens s (x ++ '\n' :: r) where
  once hts := by
    have hboth := ((hasTokens_iff_of_returned h.dropBlankRows).mp hts).dropBlankRows_newline
      hr.dropBlankRows_nil
    rwa [List.append_nil] at hboth
  twice hts := by
    have htwice := h.dropBlankRows.dropBlankRows
    have hboth := ((hasTokens_iff_of_returned htwice).mp hts).dropBlankRows_twice_newline
      hr.dropBlankRows_nil.dropBlankRows_nil
    rwa [List.append_nil] at hboth

/-- A text with blanks in front. -/
theorem KeepsTokens.front (hx : HasTokens x []) (s : Text) : KeepsTokens s (x ++ '\n' :: s) where
  once hts := hx.dropBlankRows_nil.dropBlankRows_newline hts
  twice hts := hx.dropBlankRows_nil.dropBlankRows_nil.dropBlankRows_twice_newline hts

theorem newline_suffix_of_lineBreak {b : Text} (hb : b ∈ Text.lineBreaks) : ['\n'] <:+ b := by
  simp only [Text.lineBreaks, List.mem_cons, List.not_mem_nil, or_false] at hb
  rcases hb with rfl | rfl
  · exact List.suffix_rfl
  · exact List.suffix_append ['\r'] ['\n']

theorem IsFiller.ends_newline (h : IsFiller f) : ∃ inner, f = inner ++ ['\n'] := by
  obtain ⟨b, hb, hend⟩ := h.ends
  obtain ⟨inner, heq⟩ := (newline_suffix_of_lineBreak hb).trans hend
  exact ⟨inner, heq.symm⟩

/-- Filler behind a text: the text, perhaps with a carriage return at its end, a line feed, and
what is filler too. -/
theorem IsFiller.exists_behind (h : IsFiller f) (s : Text) : ∃ x inner, s ++ f = x ++ '\n' :: inner
    ∧ Returned s x ∧ LexesInto IsFillerToken false inner := by
  obtain ⟨b, hb, inner, rfl⟩ := h.begins
  have hlexes := h.filling.lexesInto
  simp only [Text.lineBreaks, List.mem_cons, List.not_mem_nil, or_false] at hb
  rcases hb with rfl | rfl
  · exact ⟨s, inner, rfl, .same s, hlexes.of_newline⟩
  · refine ⟨s ++ ['\r'], inner, by simp, .more s, ?_⟩
    obtain ⟨t, n, hread, -, hrest⟩ := lexesInto_cons.mp hlexes
    obtain ⟨rfl, rfl⟩ := Prod.mk.inj (Except.ok.inj hread)
    exact hrest

/-- Filler behind a statement. -/
theorem exists_pads_behind (hs : statements s = .ok [s]) (hf : IsFiller f) :
    ∃ pieces, Pads s (s ++ f) pieces := by
  obtain ⟨x, inner, heq, hreturned, hinner⟩ := hf.exists_behind s
  obtain ⟨pieces, hpieces, hblank⟩ := exists_blank_statements hinner
  obtain ⟨first, rest, rfl⟩ := List.exists_cons_of_ne_nil (statements_ne_nil hpieces)
  rw [List.forall_mem_cons] at hblank
  have htext : Text.join [';'] ((x ++ '\n' :: first) :: rest) = s ++ f := by
    rw [List.append_cons, Text.join_cons_append, join_statements hpieces, heq, ← List.append_cons]
  have hsingle : ∀ p ∈ (x ++ '\n' :: first) :: rest, statements p = .ok [p] := by
    obtain ⟨ts, hts, hcut⟩ := statements_eq_singleton_iff.mp hs
    have hboth := ((hasTokens_iff_of_returned hreturned).mp hts).newline hblank.1
    rw [List.append_nil] at hboth
    refine List.forall_mem_cons.mpr ⟨statements_eq_singleton_iff.mpr ⟨ts, hboth, hcut⟩, ?_⟩
    exact fun p hp => statements_of_mem hpieces (List.mem_cons_of_mem first hp)
  refine ⟨(x ++ '\n' :: first) :: rest, htext, hsingle, ?_, ?_,
    [], _, rest, rfl, .behind hreturned hblank.1, List.forall_mem_nil _, hblank.2⟩
  · have hsettled := isSettled_of_mem_dropLast hpieces
    cases rest with
    | nil => exact List.forall_mem_nil _
    | cons q rest =>
      rw [List.dropLast_cons_cons, List.forall_mem_cons] at hsettled ⊢
      refine ⟨.newline ?_ hblank.1.lexes hsettled.1, hsettled.2⟩
      obtain ⟨ts, hts, -⟩ := statements_eq_singleton_iff.mp hs
      exact ((hasTokens_iff_of_returned hreturned).mp hts).lexes
  · intro _ p hp
    obtain ⟨inner', rfl⟩ := hf.ends_newline
    rw [← List.append_assoc] at htext
    obtain ⟨before, q, hlast⟩ := exists_last_of_newline htext
    have hmem := List.mem_of_getLast? hp
    rw [hlast, List.getLast?_concat] at hp
    obtain rfl := Option.some.inj hp
    obtain ⟨ts, hts, -⟩ := statements_eq_singleton_iff.mp (hsingle _ hmem)
    exact isSettled_of_newline hts.lexes

/-- Filler in front of a statement. -/
theorem exists_pads_front (hs : statements s = .ok [s]) (hf : IsFiller f) :
    ∃ pieces, Pads s (f ++ s) pieces := by
  obtain ⟨inner, rfl⟩ := hf.ends_newline
  have hinner : LexesInto IsFillerToken false inner :=
    hf.filling.lexesInto.leave_end (d := '\n') (g := []) (by decide) (by decide)
  obtain ⟨pieces, hpieces, hblank⟩ := exists_blank_statements hinner
  obtain ⟨before, last, rfl⟩ :=
    (List.eq_nil_or_concat pieces).resolve_left (statements_ne_nil hpieces)
  rw [List.concat_eq_append] at hpieces hblank
  rw [List.forall_mem_append, List.forall_mem_singleton] at hblank
  obtain ⟨ts, hts, hcut⟩ := statements_eq_singleton_iff.mp hs
  refine ⟨before ++ [last ++ '\n' :: s], ?_, ?_, ?_, ?_,
    before, _, [], rfl, .front hblank.2 s, hblank.1, List.forall_mem_nil _⟩
  · rw [Text.join_concat_append, join_statements hpieces, ← List.append_cons]
  · rw [List.forall_mem_append, List.forall_mem_singleton]
    refine ⟨fun p hp => statements_of_mem hpieces (List.mem_append_left _ hp), ?_⟩
    exact statements_eq_singleton_iff.mpr ⟨ts, hblank.2.newline hts, hcut⟩
  · have hsettled := isSettled_of_mem_dropLast hpieces
    rwa [List.dropLast_concat] at hsettled ⊢
  · intro hsettled p hp
    rw [List.getLast?_concat] at hp
    obtain rfl := Option.some.inj hp
    exact .newline hblank.2.lexes hts.lexes hsettled

end TableScaffold.Sql
