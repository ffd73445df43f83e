import TableScaffold.Proofs.Sql.Dropping
import TableScaffold.Proofs.Table.Syntax

set_option autoImplicit false

/-!
# Texts with a line feed between them

Texts that can be read are read one behind the other if a line feed stands between them: the
tokens are those of the first one and those of the second one (`HasTokens.newline`), for what
waits for the line feed is a token already.  A carriage return at the end is no token either
(`hasTokens_iff_of_returned`).
-/

namespace TableScaffold.Sql

open Grammar (solidTokens_append)
open Text (Returned stack)
open Written (solidTokens)

variable {d : Char} {x r : Text} {afterWord : Bool} {xs ys : List Lexeme}

/-! ## Lexemes behind a line end -/

/-- A line end is a part of a token that waits for it. -/
theorem lexemes_append_waits (hd : d ∈ lineEnds) {l : Lexeme}
    (h : lexemes afterWord x = .ok (xs ++ [l])) (hwaits : Waits d l.text)
    (hr : lexemes false r = .ok ys) :
    lexemes afterWord (x ++ d :: r) = .ok (xs ++ ⟨l.token, l.text ++ [d]⟩ :: ys) := by
  induction xs generalizing afterWord x with
  | nil =>
    obtain ⟨c, x, n, rfl, hread, htext, hrest⟩ := lexemes_cons_iff.mp h
    have hle : x.length ≤ n := List.drop_eq_nil_iff.mp (lexemes_eq_ok_nil.mp hrest)
    rw [List.take_of_length_le hle] at htext
    rw [htext] at hwaits ⊢
    obtain ⟨t, hword, -, hclosed, hover⟩ := readToken_of_waits afterWord hd hwaits
    obtain ⟨rfl, -⟩ := Prod.mk.inj (Except.ok.inj (hclosed.symm.trans hread))
    refine lexemes_cons_iff.mpr ⟨c, x ++ d :: r, x.length + 1, rfl, hover r, ?_, ?_⟩
    · rw [List.take_length_add_append]
      rfl
    · rw [List.drop_length_add_append, hword]
      exact hr
  | cons k xs ih =>
    obtain ⟨c, x, n, rfl, hread, htext, hrest⟩ := lexemes_cons_iff.mp h
    have hlt : n < x.length := by
      by_contra hle
      rw [List.drop_eq_nil_of_le (Nat.not_lt.mp hle), lexemes] at hrest
      injection hrest with hnil
      exact List.concat_ne_nil l xs hnil.symm
    obtain ⟨hlong, -⟩ := (readToken_append (lineEnds_subset hd) afterWord c x r k.token n).mpr
      ⟨hread, fun heq => absurd heq (Nat.ne_of_lt hlt)⟩
    refine lexemes_cons_iff.mpr ⟨c, x ++ d :: r, n, rfl, hlong, ?_, ?_⟩
    · rw [htext, List.take_append_of_le_length (Nat.le_of_lt hlt)]
    · rw [List.drop_append_of_le_length (Nat.le_of_lt hlt)]
      exact ih hrest

theorem text_ne_nil_of_mem (h : lexemes afterWord x = .ok xs) : ∀ l ∈ xs, l.text ≠ [] := by
  induction xs generalizing afterWord x with
  | nil => exact List.forall_mem_nil _
  | cons k xs ih =>
    obtain ⟨c, r, n, -, -, htext, hrest⟩ := lexemes_cons_iff.mp h
    refine List.forall_mem_cons.mpr ⟨?_, ih hrest⟩
    rw [htext]
    exact List.cons_ne_nil c _

/-! ## Tokens -/

/-- The tokens of a text that are no blanks. -/
def HasTokens (t : Text) (ts : List Token) : Prop :=
  ∃ xs, lexemes false t = .ok xs ∧ solidTokens xs = ts

theorem HasTokens.unique {t : Text} {ts us : List Token} (h : HasTokens t ts)
    (h' : HasTokens t us) : ts = us := by
  obtain ⟨xs, hxs, rfl⟩ := h
  obtain ⟨ys, hys, rfl⟩ := h'
  rw [Except.ok.inj (hxs.symm.trans hys)]

theorem hasTokens_nil : HasTokens [] [] := ⟨[], by rw [lexemes], rfl⟩

theorem Lexes.exists_hasTokens {t : Text} (h : Lexes false t) : ∃ ts, HasTokens t ts := by
  obtain ⟨xs, hxs⟩ := h
  exact ⟨_, xs, hxs, rfl⟩

theorem HasTokens.lexes {t : Text} {ts : List Token} (h : HasTokens t ts) : Lexes false t := by
  obtain ⟨xs, hxs, -⟩ := h
  exact ⟨xs, hxs⟩

theorem solidTokens_eq_nil : solidTokens xs = [] ↔ ∀ l ∈ xs, l.token = .blank := by
  simp [solidTokens]

/-- Blanks are the texts without tokens. -/
theorem hasTokens_nil_iff {t : Text} : HasTokens t [] ↔ LexesInto (· = .blank) false t := by
  simp only [HasTokens, LexesInto, solidTokens_eq_nil]

variable {ts us : List Token}

/-- A line end between two texts, of which it makes up no token with the second one. -/
theorem exists_lexemes_lineEnd (hd : d ∈ lineEnds) (hx : lexemes false x = .ok xs)
    (hr : lexemes false r = .ok ys) (hend : lexemes false (d :: r) = .ok (⟨.blank, [d]⟩ :: ys)) :
    ∃ us, lexemes false (x ++ d :: r) = .ok (us ++ ys) ∧ solidTokens us = solidTokens xs := by
  by_cases hwaits : ∃ l ∈ xs.getLast?, Waits d l.text
  · obtain ⟨l, hl, hwaits⟩ := hwaits
    obtain ⟨xs, rfl⟩ := List.getLast?_eq_some_iff.mp hl
    refine ⟨xs ++ [⟨l.token, l.text ++ [d]⟩], ?_, ?_⟩
    · rw [← List.append_cons]
      exact lexemes_append_waits hd hx hwaits hr
    · rw [solidTokens_append, solidTokens_append]
      rfl
  · have hlast : ∀ l ∈ xs.getLast?, ¬ Waits d l.text := fun l hl hw => hwaits ⟨l, hl, hw⟩
    refine ⟨xs ++ [⟨.blank, [d]⟩], ?_, ?_⟩
    · rw [← List.append_cons]
      exact lexemes_append_of (lineEnds_subset hd) hx hlast hend
    · rw [solidTokens_append]
      exact List.append_nil _

theorem lexemes_newline (hr : lexemes false r = .ok ys) :
    lexemes false ('\n' :: r) = .ok (⟨.blank, ['\n']⟩ :: ys) :=
  lexemes_cons_iff.mpr ⟨'\n', r, 0, rfl, rfl, rfl, hr⟩

/-- A line feed between two texts. -/
theorem HasTokens.newline (hx : HasTokens x ts) (hr : HasTokens r us) :
    HasTokens (x ++ '\n' :: r) (ts ++ us) := by
  obtain ⟨xs, hxs, rfl⟩ := hx
  obtain ⟨ys, hys, rfl⟩ := hr
  obtain ⟨vs, hvs, hsame⟩ := exists_lexemes_lineEnd (by decide) hxs hys (lexemes_newline hys)
  exact ⟨vs ++ ys, hvs, by rw [solidTokens_append, hsame]⟩

theorem HasTokens.newline_end (hx : HasTokens x ts) : HasTokens (x ++ ['\n']) ts := by
  have h := hx.newline hasTokens_nil
  rwa [List.append_nil] at h

theorem HasTokens.return_end (hx : HasTokens x ts) : HasTokens (x ++ ['\r']) ts := by
  obtain ⟨xs, hxs, rfl⟩ := hx
  have hnil : lexemes false [] = .ok [] := lexemes_eq_ok_nil.mpr rfl
  obtain ⟨vs, hvs, hsame⟩ := exists_lexemes_lineEnd (d := '\r') (by decide) hxs hnil
    (lexemes_cons_iff.mpr ⟨'\r', [], 0, rfl, rfl, rfl, hnil⟩)
  exact ⟨vs ++ [], hvs, by rw [List.append_nil, hsame]⟩

/-- A line end at the end may be left out. -/
theorem HasTokens.leave_end (hd : d ∈ lineEnds) (h : HasTokens (x ++ [d]) ts) : HasTokens x ts := by
  have hlexes : Lexes false x := lexesInto_true.mp
    ((lexesInto_true.mpr h.lexes).leave_end hd (by simpa using isBlank_of_mem_lineEnds d hd))
  obtain ⟨us, hus⟩ := hlexes.exists_hasTokens
  have hback : HasTokens (x ++ [d]) us := by
    simp only [lineEnds, List.mem_cons, List.not_mem_nil, or_false] at hd
    rcases hd with rfl | rfl
    · exact hus.newline_end
    · exact hus.return_end
  rwa [h.unique hback]

/-- A carriage return at the end is no token. -/
theorem hasTokens_iff_of_returned {t t' : Text} (h : Returned t t') :
    HasTokens t ts ↔ HasTokens t' ts := by
  cases h with
  | same => exact Iff.rfl
  | more => exact ⟨HasTokens.return_end, HasTokens.leave_end (by decide)⟩

/-- One text below another. -/
theorem HasTokens.stack (hx : HasTokens x ts) (hr : HasTokens r us) :
    HasTokens (stack x r) (ts ++ us) := by
  unfold Text.stack
  split
  · next hnil =>
    rw [hnil] at hx
    rwa [hx.unique hasTokens_nil, List.nil_append]
  · split
    · next hnil =>
      rw [hnil] at hr
      rwa [hr.unique hasTokens_nil, List.append_nil]
    · exact hx.newline hr

/-! ## Texts without their empty rows -/

/-- A text without tokens has none without its empty rows. -/
theorem HasTokens.dropBlankRows_nil (h : HasTokens x []) : HasTokens (Text.dropBlankRows x) [] :=
  hasTokens_nil_iff.mpr (lexesInto_dropBlankRows isCoarse_blank (hasTokens_nil_iff.mp h))

theorem hasTokens_dropBlankRows_newline_end :
    HasTokens (Text.dropBlankRows (x ++ ['\n'])) ts ↔ HasTokens (Text.dropBlankRows x) ts :=
  hasTokens_iff_of_returned (Text.returned_closed x)

theorem HasTokens.dropBlankRows_stack {a b : Text} (ha : HasTokens (Text.dropBlankRows a) ts)
    (hb : HasTokens (Text.dropBlankRows b) us) :
    HasTokens (Text.dropBlankRows (Text.stack a b)) (ts ++ us) := by
  rcases Text.dropBlankRows_stack a b with ⟨rfl, heq⟩ | ⟨rfl, heq⟩ | heq
  · rw [heq]
    rwa [ha.unique hasTokens_nil, List.nil_append]
  · rw [heq]
    rwa [hb.unique hasTokens_nil, List.append_nil]
  · rw [heq]
    exact (hasTokens_dropBlankRows_newline_end.mpr ha).stack hb

/-- A line feed between two texts the empty rows of which are dropped. -/
theorem HasTokens.dropBlankRows_newline (hx : HasTokens (Text.dropBlankRows x) ts)
    (hr : HasTokens (Text.dropBlankRows r) us) :
    HasTokens (Text.dropBlankRows (x ++ '\n' :: r)) (ts ++ us) := by
  rw [Text.dropBlankRows_append]
  exact (hasTokens_dropBlankRows_newline_end.mpr hx).stack hr

/-- So it is if they are dropped twice. -/
theorem HasTokens.dropBlankRows_twice_newline
    (hx : HasTokens (Text.dropBlankRows (Text.dropBlankRows x)) ts)
    (hr : HasTokens (Text.dropBlankRows (Text.dropBlankRows r)) us) :
    HasTokens (Text.dropBlankRows (Text.dropBlankRows (x ++ '\n' :: r))) (ts ++ us) := by
  have hreturned := (Text.returned_closed x).dropBlankRows
  rw [Text.dropBlankRows_append]
  exact ((hasTokens_iff_of_returned hreturned).mpr hx).dropBlankRows_stack hr

/-! ## Statements -/

/-- A single statement has no semicolon among its tokens. -/
theorem statements_eq_singleton_iff {s : Text} :
    statements s = .ok [s] ↔ ∃ ts, HasTokens s ts ∧ .semicolon ∉ ts := by
  rw [statements_eq_singleton]
  constructor
  · rintro ⟨xs, hxs, hcut⟩
    refine ⟨_, ⟨xs, hxs, rfl⟩, ?_⟩
    simpa [solidTokens] using hcut
  · rintro ⟨_, ⟨xs, hxs, rfl⟩, hcut⟩
    refine ⟨xs, hxs, ?_⟩
    simpa [solidTokens] using hcut

/-- A text that does not reach for a semicolon behind it. -/
def IsSettled (s : Text) : Prop := ¬ EndsInLineComment s ∧ ¬ EndsInOpenOperator s

theorem isSettled_iff {s : Text} (h : lexemes false s = .ok xs) :
    IsSettled s ↔ ∀ l ∈ xs.getLast?, ¬ Waits ';' l.text :=
  (not_waits_semicolon h).symm

theorem not_waits_of_newline {t : Text} : ¬ Waits ';' (t ++ ['\n']) := by
  have hother {u : Text} (hu : u.getLast? ≠ some '\n') : t ++ ['\n'] ≠ u := by
    rintro rfl
    exact hu List.getLast?_concat
  rintro (⟨-, hopen⟩ | (hopen | hopen) | ⟨-, hd⟩)
  · exact (hopen '\n' (by simp)).1 rfl
  · exact hother (by decide) hopen
  · exact hother (by decide) hopen
  · exact absurd hd (by decide)

/-- A text that ends in a line feed is settled. -/
theorem isSettled_of_newline {t : Text} (h : Lexes false (t ++ ['\n'])) :
    IsSettled (t ++ ['\n']) := by
  obtain ⟨xs, hxs⟩ := h
  refine (isSettled_iff hxs).mpr ?_
  intro l hl
  obtain ⟨xs, rfl⟩ := List.getLast?_eq_some_iff.mp hl
  have htext : textOf xs ++ l.text = t ++ ['\n'] := by
    have := flatten_lexemes hxs
    simpa [textOf] using this
  obtain ⟨u, e, hu⟩ := (List.eq_nil_or_concat l.text).resolve_left
    (text_ne_nil_of_mem hxs l (List.mem_append_right _ (List.mem_singleton_self l)))
  rw [hu, List.concat_eq_append, ← List.append_assoc] at htext
  obtain ⟨-, heq⟩ := List.append_inj' htext rfl
  obtain rfl := List.singleton_inj.mp heq
  rw [hu, List.concat_eq_append]
  exact not_waits_of_newline

/-- What stands in front of a line feed does not matter for how a text ends. -/
theorem IsSettled.newline (hx : Lexes false x) (hr : Lexes false r) (h : IsSettled r) :
    IsSettled (x ++ '\n' :: r) := by
  obtain ⟨xs, hxs⟩ := hx
  obtain ⟨ys, hys⟩ := hr
  obtain ⟨vs, hvs, -⟩ := exists_lexemes_lineEnd (by decide) hxs hys (lexemes_newline hys)
  cases ys with
  | nil =>
    obtain rfl := lexemes_eq_ok_nil.mp hys
    exact isSettled_of_newline ⟨_, hvs⟩
  | cons l ys =>
    refine (isSettled_iff hvs).mpr ?_
    rw [List.getLast?_append, List.getLast?_cons, Option.some_or, ← List.getLast?_cons]
    exact (isSettled_iff hys).mp h

theorem statements_of_mem {sql s : Text} {pieces : List Text} (h : statements sql = .ok pieces)
    (hs : s ∈ pieces) : statements s = .ok [s] := by
  obtain ⟨hall, -⟩ := (statements_join (statements_ne_nil h)).mp (by rw [join_statements h, h])
  exact hall s hs

/-- A schema that ends in a line feed has a last statement that does. -/
theorem exists_last_of_newline {x : Text} {pieces : List Text}
    (h : Text.join [';'] pieces = x ++ ['\n']) : ∃ before p, pieces = before ++ [p ++ ['\n']] := by
  rcases List.eq_nil_or_concat pieces with rfl | ⟨before, s, rfl⟩
  · exact absurd h.symm (List.concat_ne_nil _ x)
  rw [List.concat_eq_append] at h ⊢
  rcases List.eq_nil_or_concat s with rfl | ⟨p, e, rfl⟩
  · -- the schema would be empty or end in a semicolon
    cases before with
    | nil => exact absurd h.symm (List.concat_ne_nil _ x)
    | cons q before =>
      rw [Text.join_append (List.cons_ne_nil q before) (List.cons_ne_nil _ _), Text.join_singleton,
        List.append_nil] at h
      exact absurd (List.singleton_inj.mp (List.append_inj' h rfl).2) (by decide)
  · rw [List.concat_eq_append] at h ⊢
    have hconcat : Text.join [';'] (before ++ [[]]) ++ p ++ [e] = x ++ ['\n'] := by
      rw [← h, List.append_assoc, ← Text.join_concat_append, List.nil_append]
    obtain rfl := List.singleton_inj.mp (List.append_inj' hconcat rfl).2
    exact ⟨before, p, rfl⟩

theorem isSettled_of_mem_dropLast {sql : Text} {pieces : List Text}
    (h : statements sql = .ok pieces) : ∀ s ∈ pieces.dropLast, IsSettled s :=
  ((statements_join (statements_ne_nil h)).mp (by rw [join_statements h, h])).2

/-- One of the statements of a schema gives way to others. -/
theorem statements_replace {sql s : Text} {before behind pieces : List Text}
    (h : statements sql = .ok (before ++ s :: behind)) (hne : pieces ≠ [])
    (hsingle : ∀ t ∈ pieces, statements t = .ok [t]) (hsettled : ∀ t ∈ pieces.dropLast, IsSettled t)
    (hlast : behind ≠ [] → IsSettled s → ∀ t ∈ pieces.getLast?, IsSettled t) :
    statements (Text.join [';'] (before ++ (pieces ++ behind)))
      = .ok (before ++ (pieces ++ behind)) := by
  obtain ⟨hall, hopen⟩ := (statements_join (statements_ne_nil h)).mp (by rw [join_statements h, h])
  refine (statements_join (by simp [hne])).mpr ⟨?_, ?_⟩
  · intro t ht
    rcases List.mem_append.mp ht with ht | ht
    · exact hall t (List.mem_append_left _ ht)
    · rcases List.mem_append.mp ht with ht | ht
      · exact hsingle t ht
      · exact hall t (List.mem_append_right _ (List.mem_cons_of_mem s ht))
  · intro t ht
    rw [List.dropLast_append_of_ne_nil (by simp [hne])] at ht
    rw [List.dropLast_append_of_ne_nil (List.cons_ne_nil s behind)] at hopen
    rcases List.mem_append.mp ht with ht | ht
    · exact hopen t (List.mem_append_left _ ht)
    · by_cases hbehind : behind = []
      · rw [hbehind, List.append_nil] at ht
        exact hsettled t ht
      · rw [List.dropLast_cons_of_ne_nil hbehind] at hopen
        rw [List.dropLast_append_of_ne_nil hbehind] at ht
        rcases List.mem_append.mp ht with ht | ht
        · rw [← List.dropLast_concat_getLast hne] at ht
          rcases List.mem_append.mp ht with ht | ht
          · exact hsettled t ht
          · refine hlast hbehind (hopen s (List.mem_append_right _ List.mem_cons_self)) t ?_
            rw [List.getLast?_eq_some_getLast hne, List.mem_singleton.mp ht]
            rfl
        · exact hopen t (List.mem_append_right _ (List.mem_cons_of_mem s ht))

end TableScaffold.Sql
