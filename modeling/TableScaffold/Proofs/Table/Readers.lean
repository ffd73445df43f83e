import TableScaffold.Proofs.Table.Tokens
import TableScaffold.Proofs.Text.Rows

set_option autoImplicit false

/-!
# What the readers of the grammar read

Each lemma says what a reader answers for the tokens of one written part with any
tokens behind it, as long as those do not go on with the part.
-/

namespace TableScaffold.Written

open Grammar (constraintKeywords)
open Sql (Lexeme Placed Token place textOf)

/-! ## Tokens without blanks -/

/-- The tokens of lexemes from a place on, without the blanks. -/
def solid (l : Location) (xs : List Lexeme) : List Placed :=
  (place l xs).filter (·.token ≠ .blank)

theorem place_append (l : Location) (xs ys : List Lexeme) :
    place l (xs ++ ys) = place l xs ++ place (l.after (textOf xs)) ys := by
  induction xs generalizing l with
  | nil => rfl
  | cons x xs ih => simp [place, ih]

theorem solid_append (l : Location) (xs ys : List Lexeme) :
    solid l (xs ++ ys) = solid l xs ++ solid (l.after (textOf xs)) ys := by
  rw [solid, place_append, List.filter_append]
  rfl

theorem solid_cons {x : Lexeme} (hx : x.token ≠ .blank) (l : Location) (xs : List Lexeme) :
    solid l (x :: xs) = ⟨x.token, l, l.after x.text⟩ :: solid (l.after x.text) xs := by
  simp [solid, place, hx]

@[simp] theorem solid_nil (l : Location) : solid l [] = [] := rfl

@[simp] theorem solid_space (l : Location) (xs : List Lexeme) :
    solid l (space :: xs) = solid (l.after [' ']) xs := rfl

@[simp] theorem solid_newline (l : Location) (xs : List Lexeme) :
    solid l (newline :: xs) = solid (l.after ['\n']) xs := rfl

theorem solid_map_token (l : Location) (xs : List Lexeme) :
    (solid l xs).map Placed.token = solidTokens xs := by
  induction xs generalizing l with
  | nil => rfl
  | cons x xs ih =>
    by_cases hx : x.token = .blank
    · have hsolid : solid l (x :: xs) = solid (l.after x.text) xs := by simp [solid, place, hx]
      have htokens : solidTokens (x :: xs) = solidTokens xs := by simp [solidTokens, hx]
      rw [hsolid, htokens, ih]
    · have htokens : solidTokens (x :: xs) = x.token :: solidTokens xs := by
        simp [solidTokens, hx]
      rw [solid_cons hx, List.map_cons, ih, htokens]

/-! ## Groups -/

/-- A group is read up to the parenthesis that closes it. -/
theorem closeGroup_append {depth : Nat} {ts : List Placed}
    (h : parenDepth depth (ts.map Placed.token) = some 0) {t : Placed}
    (ht : t.token = .rightParen) (rest : List Placed) :
    Grammar.closeGroup depth (ts ++ t :: rest) = .ok rest := by
  induction ts generalizing depth with
  | nil =>
    obtain rfl : depth = 0 := by simpa [parenDepth] using h
    simp [Grammar.closeGroup, ht]
  | cons u ts ih =>
    rw [List.map_cons] at h
    rw [List.cons_append, Grammar.closeGroup.eq_def]
    cases hu : u.token with
    | leftParen =>
      rw [hu, parenDepth] at h
      simpa [hu] using ih h
    | rightParen =>
      rw [hu] at h
      cases depth with
      | zero => simp [parenDepth] at h
      | succ depth =>
        rw [parenDepth] at h
        simpa [hu] using ih h
    | _ =>
      rw [hu, parenDepth] at h
      · simpa [hu] using ih h
      all_goals simp

theorem solid_group (l : Location) (g : Group) :
    ∃ t r, solid l g.lexemes = t :: r ∧ t.token = .leftParen := by
  rw [Group.lexemes, List.cons_append, solid_cons (by simp)]
  exact ⟨_, _, rfl, rfl⟩

theorem skipGroup_group (l : Location) (g : Group) (rest : List Placed) :
    Grammar.skipGroup (solid l g.lexemes ++ rest) = .ok rest := by
  have hsolid : solid l g.lexemes = ⟨.leftParen, l, l.after ['(']⟩ :: (solid (l.after ['(']) g.inner
      ++ [⟨.rightParen, (l.after ['(']).after (textOf g.inner),
        ((l.after ['(']).after (textOf g.inner)).after [')']⟩]) := by
    simp [Group.lexemes, solid_cons, solid_append]
  rw [hsolid, List.cons_append, Grammar.skipGroup, if_pos rfl, List.append_assoc]
  exact closeGroup_append (by rw [solid_map_token, g.balanced]) rfl rest

/-! ## What may follow -/

/-- Tokens that begin with the end of a column or with a constraint. -/
def Follows (ts : List Placed) : Prop :=
  ∀ t ∈ ts.head?, t.token = .comma ∨ t.token = .rightParen
    ∨ t.token.isAnyKeyword constraintKeywords = true

theorem isAnyKeyword_eq_true {keywords : List Text} {t : Token}
    (h : t.isAnyKeyword keywords = true) : ∃ value, t = .word value false := by
  obtain ⟨k, -, hk⟩ := List.any_eq_true.mp h
  unfold Token.isKeyword at hk
  split at hk
  · exact ⟨_, rfl⟩
  · contradiction

theorem Follows.token_ne {t : Placed} {ts : List Placed} (h : Follows (t :: ts)) :
    t.token ≠ .leftParen ∧ t.token ≠ .period := by
  rcases h t rfl with ht | ht | ht
  · simp [ht]
  · simp [ht]
  · obtain ⟨value, hvalue⟩ := isAnyKeyword_eq_true ht
    simp [hvalue]

/-- A token at which the words of a type end. -/
def EndsType (ts : List Placed) : Prop :=
  ∀ t ∈ ts.head?, t.token.isWord = true → t.token.isAnyKeyword constraintKeywords = true

theorem Follows.endsType {ts : List Placed} (h : Follows ts) : EndsType ts := by
  intro t ht hword
  rcases h t ht with heq | heq | hkeyword
  · rw [heq] at hword
    contradiction
  · rw [heq] at hword
    contradiction
  · exact hkeyword

/-! ## Words of a type -/

theorem typeWords_stop {rest : List Placed} (h : EndsType rest) :
    Grammar.typeWords rest = ([], rest) := by
  cases rest with
  | nil => rfl
  | cons t r =>
    rw [Grammar.typeWords]
    split
    · next value quoted ht =>
      have := h t rfl (by rw [ht, Token.isWord])
      rw [if_pos (ht ▸ this)]
    · rfl

theorem typeWords_words (l : Location) (words : List TypeWord) {rest : List Placed}
    (h : EndsType rest) :
    Grammar.typeWords (solid l (wordLexemes words) ++ rest) = (words.map TypeWord.text, rest) := by
  induction words generalizing l with
  | nil => exact typeWords_stop h
  | cons w words ih =>
    have hsolid : solid l (wordLexemes (w :: words))
        = ⟨.word w.text false, l.after [' '], (l.after [' ']).after w.text⟩
          :: solid ((l.after [' ']).after w.text) (wordLexemes words) := by
      simp [wordLexemes, TypeWord.lexeme, solid_cons]
    rw [hsolid, List.cons_append, Grammar.typeWords]
    simp [w.free, ih]

/-- The type of a column is read up to its constraints. -/
theorem columnType_entry (name : Text) (l : Location) (c : ColumnEntry) {rest : List Placed}
    (h : Follows rest) :
    Grammar.columnType name (solid l c.typeLexemes ++ rest) = .ok (c.typeWords, rest) := by
  obtain ⟨w, ws, hwords⟩ := List.exists_cons_of_ne_nil c.hasType
  unfold Grammar.columnType ColumnEntry.typeWords ColumnEntry.typeLexemes
  rw [solid_append, List.append_assoc]
  cases c.group with
  | none =>
    rw [Option.elim_none, solid_nil, List.nil_append, typeWords_words l c.words h.endsType, hwords]
    cases rest with
    | nil => simp
    | cons t r => simp [h.token_ne]
  | some g =>
    rw [Option.elim_some, solid_append, List.append_assoc]
    generalize l.after (textOf (wordLexemes c.words)) = l'
    generalize l'.after (textOf g.1.lexemes) = l''
    have hskip := skipGroup_group l' g.1 (solid l'' (wordLexemes g.2) ++ rest)
    obtain ⟨t, r, hgroup, ht⟩ := solid_group l' g.1
    rw [hgroup, List.cons_append] at hskip ⊢
    rw [typeWords_words l c.words (by simp [EndsType, ht, Token.isWord]), hwords]
    simp [ht, hskip, typeWords_words l'' g.2 h.endsType]

/-! ## Names -/

theorem nameAfter_stop (use : NameUse) (name : Text) {rest : List Placed}
    (h : ∀ t ∈ rest.head?, t.token ≠ .period) :
    Grammar.nameAfter use name rest = .ok (name, rest) := by
  unfold Grammar.nameAfter
  split <;> simp_all

theorem nameAfter_period {use : NameUse} {name : Text} {t : Placed} {ts : List Placed}
    {result : Text × List Placed} (ht : t.token = .period)
    (h : Grammar.qualifiedName use ts = .ok result) :
    Grammar.nameAfter use name (t :: ts) = .ok result := by
  cases ts with
  | nil => simp [Grammar.qualifiedName] at h
  | cons w r =>
    rw [Grammar.nameAfter, if_pos ht]
    rw [Grammar.qualifiedName] at h
    split at h
    · next part quoted hw => simpa [hw] using h
    · contradiction

/-- A qualified name stands for its last part. -/
theorem qualifiedName_qualify (use : NameUse) (l : Location) (qualifiers : List Text) (name : Text)
    {rest : List Placed} (h : ∀ t ∈ rest.head?, t.token ≠ .period) :
    Grammar.qualifiedName use (solid l (Sql.qualifyLexemes qualifiers name) ++ rest)
      = .ok (name, rest) := by
  induction qualifiers generalizing l with
  | nil =>
    simp only [Sql.qualifyLexemes, List.flatMap_nil, List.nil_append]
    rw [solid_cons (by simp), List.cons_append, Grammar.qualifiedName]
    exact nameAfter_stop use name h
  | cons q qualifiers ih =>
    have hcons : Sql.qualifyLexemes (q :: qualifiers) name
        = ⟨.word q true, Sql.quote q⟩ :: ⟨.period, ['.']⟩ :: Sql.qualifyLexemes qualifiers name := by
      simp [Sql.qualifyLexemes]
    rw [hcons, solid_cons (by simp), solid_cons (by simp), List.cons_append, List.cons_append,
      Grammar.qualifiedName]
    exact nameAfter_period rfl (ih _)

/-! ## Default values -/

/-- Tokens at which an expression ends. -/
theorem Follows.expressionDepth? {t : Placed} {ts : List Placed} (h : Follows (t :: ts)) :
    Grammar.expressionDepth? 0 false t.token = none := by
  rcases h t rfl with ht | ht | ht
  · rw [ht]
    rfl
  · rw [ht]
    rfl
  · obtain ⟨value, hvalue⟩ := isAnyKeyword_eq_true ht
    rw [hvalue] at ht ⊢
    simp [Grammar.expressionDepth?, ht]

/-- An expression is read up to where it ends, `depth` groups of it being open. -/
theorem expressionTokens_append {depth : Nat} {first : Bool} {ts rest : List Placed}
    (hbalanced : parenDepth depth (ts.map Placed.token) = some 0)
    (hcommas : ∀ before behind, ts.map Placed.token = before ++ .comma :: behind →
      parenDepth depth before ≠ some 0)
    (hkeywords : ∀ before token behind, ts.map Placed.token = before ++ token :: behind →
      (first = true → before ≠ []) → parenDepth depth before = some 0 →
      token.isAnyKeyword constraintKeywords = false)
    (hrest : Follows rest) (hfirst : first = true → ts ≠ []) :
    Grammar.expressionTokens depth first (ts ++ rest) = (ts, rest) := by
  induction ts generalizing depth first with
  | nil =>
    obtain rfl : depth = 0 := by simpa [parenDepth] using hbalanced
    obtain rfl : first = false := by simpa using hfirst
    cases rest with
    | nil => rfl
    | cons t r => simp [Grammar.expressionTokens, hrest.expressionDepth?]
  | cons u ts ih =>
    have hstep {depth' : Nat} (h : Grammar.expressionDepth? depth first u.token = some depth')
        (hdepth : ∀ ts, parenDepth depth (u.token :: ts) = parenDepth depth' ts) :
        Grammar.expressionTokens depth first (u :: ts ++ rest) = (u :: ts, rest) := by
      rw [List.map_cons] at hbalanced hcommas hkeywords
      rw [hdepth] at hbalanced
      have := @ih depth' false hbalanced ?_ ?_ (by simp)
      · simp [Grammar.expressionTokens, h, this]
      · intro before behind heq
        rw [← hdepth]
        exact hcommas (u.token :: before) behind (by rw [heq, List.cons_append])
      · intro before token behind heq _ hzero
        rw [← hdepth] at hzero
        exact hkeywords (u.token :: before) token behind (by rw [heq, List.cons_append])
          (by simp) hzero
    cases hu : u.token with
    | leftParen =>
      exact @hstep (depth + 1) (by rw [hu]; rfl) (fun ts => by rw [hu]; rfl)
    | rightParen =>
      cases depth with
      | zero => simp [hu, parenDepth] at hbalanced
      | succ depth => exact @hstep depth (by rw [hu]; rfl) (fun ts => by rw [hu]; rfl)
    | comma =>
      cases depth with
      | zero => exact absurd rfl (hcommas [] (ts.map Placed.token) (by simp [hu]))
      | succ depth => exact @hstep (depth + 1) (by rw [hu]; rfl) (fun ts => by rw [hu]; rfl)
    | _ =>
      cases depth with
      | zero =>
        have hkeyword : (!first && u.token.isAnyKeyword constraintKeywords) = false := by
          cases first with
          | true => rfl
          | false => exact hkeywords [] u.token (ts.map Placed.token) rfl (by simp) rfl
        rw [hu] at hkeyword
        exact @hstep 0 (by simp [hu, Grammar.expressionDepth?, hkeyword])
          (fun ts => by rw [hu]; rfl)
      | succ depth => exact @hstep (depth + 1) (by rw [hu]; rfl) (fun ts => by rw [hu]; rfl)

theorem solid_ne_nil {l : Location} {xs : List Lexeme} (hne : xs ≠ [])
    (hfirst : ∀ x ∈ xs.head?, x.token ≠ .blank) : ∃ t r, solid l xs = t :: r ∧ t.first = l := by
  obtain ⟨x, xs, rfl⟩ := List.exists_cons_of_ne_nil hne
  rw [solid_cons (hfirst x rfl)]
  exact ⟨_, _, rfl, rfl⟩

theorem solid_getLast? {l : Location} {xs : List Lexeme} (hne : xs ≠ [])
    (hlast : ∀ x ∈ xs.getLast?, x.token ≠ .blank) :
    ∃ t, (solid l xs).getLast? = some t ∧ t.last = l.after (textOf xs) := by
  have hsplit := List.dropLast_concat_getLast hne
  have hx : (xs.getLast hne).token ≠ .blank := hlast _ (List.getLast?_eq_some_getLast hne)
  generalize xs.getLast hne = x at hsplit hx
  rw [← hsplit, solid_append, solid_cons hx, solid_nil, List.getLast?_concat]
  refine ⟨_, rfl, ?_⟩
  simp

/-- The expression of a default value is kept as it is written. -/
theorem defaultValue_expression {before behind source : Text} (e : Expression)
    (hsource : before ++ (e.text ++ behind) = source) {rest : List Placed}
    (hrest : Follows rest) :
    Grammar.defaultValue source (solid (Location.start.after before) e.lexemes ++ rest)
      = .ok (.default e.text, rest) := by
  have htext : textOf e.lexemes = e.text := Sql.flatten_lexemes e.reads
  obtain ⟨t, r, hsolid, hfirst⟩ := @solid_ne_nil (Location.start.after before) _ e.ne_nil
    e.firstSolid
  obtain ⟨u, hu, hlast⟩ := @solid_getLast? (Location.start.after before) _ e.ne_nil e.lastSolid
  have htokens : Grammar.expressionTokens 0 true
      (solid (Location.start.after before) e.lexemes ++ rest) = (t :: r, rest) := by
    rw [← hsolid]
    have hmap := solid_map_token (Location.start.after before) e.lexemes
    refine expressionTokens_append ?_ ?_ ?_ hrest ?_
    · rw [hmap, e.balanced]
    · rw [hmap]
      exact e.commas
    · rw [hmap]
      intro before token behind heq hne hzero
      exact e.keywords before token behind heq (hne rfl) hzero
    · simp [hsolid]
  rw [hsolid, List.getLast?_eq_some_getLast (List.cons_ne_nil t r), Option.some.injEq] at hu
  have hstart : Text.byteOffset source t.first = Text.byteCount before := by
    rw [hfirst, ← hsource, Text.byteOffset_after]
  have hstop : Text.byteOffset source u.last = Text.byteCount before + Text.byteCount e.text := by
    rw [hlast, htext, ← Location.after_append, ← hsource, ← List.append_assoc,
      Text.byteOffset_after, Text.byteCount_append]
  unfold Grammar.defaultValue
  rw [htokens]
  simp only [hu, Grammar.expressionText, hstart, hstop]
  rw [← hsource, Text.slice_append, Text.trim_eq_self e.firstVisible e.lastVisible]

end TableScaffold.Written
