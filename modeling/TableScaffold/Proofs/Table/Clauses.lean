import TableScaffold.Proofs.Result
import TableScaffold.Proofs.Table.Reading

set_option autoImplicit false

/-!
# What the readers of clauses read

The readers of clauses, columns and entries look into the source text for default
values, so what they read is told for lexemes that stand in that text (`Stands`).
Clauses are read in order, up to the token behind them (`constraints_sound`,
`constraints_clauses`).
-/

namespace TableScaffold.Grammar

open Sql (Lexeme Placed Token textOf)
open Written (parenDepth solid solidTokens solid_append solid_cons solid_map_token)

/-! ## Lexemes in a text -/

/-- Lexemes stand in a text from a place on. -/
def Stands (source : Text) (l : Location) (xs : List Lexeme) : Prop :=
  ∃ before behind, source = before ++ (textOf xs ++ behind) ∧ l = Location.start.after before

section Stands

variable {source : Text} {l : Location} {xs ys : List Lexeme}

theorem Stands.left (h : Stands source l (xs ++ ys)) : Stands source l xs := by
  obtain ⟨before, behind, hsource, hl⟩ := h
  refine ⟨before, textOf ys ++ behind, ?_, hl⟩
  rw [hsource, Sql.textOf_append, List.append_assoc]

theorem Stands.right (h : Stands source l (xs ++ ys)) :
    Stands source (l.after (textOf xs)) ys := by
  obtain ⟨before, behind, hsource, rfl⟩ := h
  refine ⟨before ++ textOf xs, behind, ?_, (Location.after_append _ _ _).symm⟩
  rw [hsource, Sql.textOf_append, List.append_assoc, List.append_assoc]

theorem solid_blank_cons {x : Lexeme} (hx : x.token = .blank) (l : Location) (xs : List Lexeme) :
    solid l (x :: xs) = solid (l.after x.text) xs := by
  simp [solid, Sql.place, hx]

theorem solid_eq_nil : solid l xs = [] ↔ solidTokens xs = [] := by
  rw [← solid_map_token l xs, List.map_eq_nil_iff]

/-- Where the tokens fall into two parts, so do the lexemes. -/
theorem exists_split (us : List Placed) {vs : List Placed} (h : solid l xs = us ++ vs) :
    ∃ ys zs, xs = ys ++ zs ∧ solid l ys = us ∧ solid (l.after (textOf ys)) zs = vs := by
  induction xs generalizing l us with
  | nil =>
    obtain ⟨rfl, rfl⟩ := List.append_eq_nil_iff.mp h.symm
    exact ⟨[], [], rfl, rfl, rfl⟩
  | cons x xs ih =>
    by_cases hx : x.token = .blank
    · rw [solid_blank_cons hx] at h
      obtain ⟨ys, zs, rfl, rfl, rfl⟩ := ih _ h
      refine ⟨x :: ys, zs, rfl, solid_blank_cons hx l ys, ?_⟩
      rw [Sql.textOf_cons, Location.after_append]
    · cases us with
      | nil => exact ⟨[], x :: xs, rfl, rfl, h⟩
      | cons u us =>
        rw [solid_cons hx, List.cons_append] at h
        obtain ⟨rfl, htail⟩ := List.cons.inj h
        obtain ⟨ys, zs, rfl, rfl, rfl⟩ := ih _ htail
        refine ⟨x :: ys, zs, rfl, solid_cons hx l ys, ?_⟩
        rw [Sql.textOf_cons, Location.after_append]

theorem exists_split_tokens {xs : List Lexeme} (us : List Token) {vs : List Token}
    (h : solidTokens xs = us ++ vs) :
    ∃ ys zs, xs = ys ++ zs ∧ solidTokens ys = us ∧ solidTokens zs = vs := by
  rw [← solid_map_token Location.start] at h
  obtain ⟨ps, qs, hsolid, rfl, rfl⟩ := List.map_eq_append_iff.mp h
  obtain ⟨ys, zs, rfl, rfl, rfl⟩ := exists_split _ hsolid
  exact ⟨ys, zs, rfl, (solid_map_token _ ys).symm, (solid_map_token _ zs).symm⟩

theorem stands_textOf (xs : List Lexeme) : Stands (textOf xs) Location.start xs :=
  ⟨[], [], by simp, rfl⟩

/-- A parenthesis behind lexemes, wherever it is. -/
def anyClosing : Placed := ⟨.rightParen, Location.start, Location.start⟩

end Stands

/-! ## The text of an expression -/

theorem exists_dropWhile {α : Type} {p : α → Bool} {as : List α} (h : ∃ a ∈ as, p a = false) :
    as = as.takeWhile p ++ as.dropWhile p ∧ ∃ a more, as.dropWhile p = a :: more ∧ p a = false := by
  refine ⟨List.takeWhile_append_dropWhile.symm, ?_⟩
  obtain ⟨a, ha, hpa⟩ := h
  have hne : as.dropWhile p ≠ [] := by
    rw [ne_eq, List.dropWhile_eq_nil_iff]
    exact fun hall => Bool.eq_false_iff.mp hpa (hall a ha)
  obtain ⟨b, more, hb⟩ := List.exists_cons_of_ne_nil hne
  refine ⟨b, more, hb, ?_⟩
  have hfirst := List.head?_dropWhile_not p as
  rw [hb] at hfirst
  exact Bool.eq_false_iff.mpr (by simpa using hfirst)

theorem solidTokens_eq_nil {xs : List Lexeme} :
    solidTokens xs = [] ↔ ∀ x ∈ xs, x.token = .blank := by
  simp [solidTokens, List.filter_eq_nil_iff]

/-- Around the first and the last token of lexemes there are only blanks. -/
theorem exists_strip {xs : List Lexeme} (h : solidTokens xs ≠ []) :
    ∃ lead trail, xs = lead ++ (strip xs ++ trail) ∧ solidTokens lead = [] ∧ solidTokens trail = []
      ∧ strip xs ≠ [] ∧ (∀ x ∈ (strip xs).head?, x.token ≠ .blank)
      ∧ ∀ x ∈ (strip xs).getLast?, x.token ≠ .blank := by
  rw [ne_eq, solidTokens_eq_nil, not_forall] at h
  obtain ⟨x, hx⟩ := h
  rw [Classical.not_imp] at hx
  obtain ⟨hxs, a, mid, hmid, ha⟩ :=
    exists_dropWhile (p := fun x : Lexeme => x.token = .blank) ⟨x, hx.1, decide_eq_false hx.2⟩
  have hreverse : a ∈ (xs.dropWhile (·.token = .blank)).reverse := by
    rw [hmid]
    exact List.mem_reverse.mpr List.mem_cons_self
  obtain ⟨hback, b, back, hb, hlast⟩ :=
    exists_dropWhile (p := fun x : Lexeme => x.token = .blank) ⟨a, hreverse, ha⟩
  have hstrip : strip xs = back.reverse ++ [b] := by
    rw [strip, hb, List.reverse_cons]
  have hmiddle := congrArg List.reverse hback
  rw [List.reverse_reverse, List.reverse_append] at hmiddle
  refine ⟨xs.takeWhile (·.token = .blank), _, hxs.trans (congrArg _ hmiddle), ?_, ?_, ?_, ?_, ?_⟩
  · exact solidTokens_eq_nil.mpr fun y hy => by simpa using List.mem_takeWhile_imp hy
  · refine solidTokens_eq_nil.mpr fun y hy => ?_
    simpa using List.mem_takeWhile_imp (List.mem_reverse.mp hy)
  · rw [hstrip]
    simp
  · -- the first lexeme that is kept is the first one that is no blank
    intro y hy
    change xs.dropWhile _ = strip xs ++ _ at hmiddle
    rw [hmid] at hmiddle
    obtain ⟨z, more, hz⟩ := List.exists_cons_of_ne_nil (l := strip xs) (by rw [hstrip]; simp)
    rw [hz] at hy hmiddle
    obtain rfl : z = y := Option.some.inj hy
    rw [List.cons_append] at hmiddle
    rw [← (List.cons.inj hmiddle).1]
    exact of_decide_eq_false ha
  · intro y hy
    rw [hstrip, List.getLast?_concat] at hy
    rw [← Option.some.inj hy]
    exact of_decide_eq_false hlast

/-- The text of an expression does not depend on where it stands. -/
theorem expressionText_eq_spelled {source : Text} {l : Location} {xs : List Lexeme} {t : Placed}
    {r : List Placed} (h : Stands source l xs) (hsolid : solid l xs = t :: r) :
    expressionText source t ((t :: r).getLast (List.cons_ne_nil t r)) = spelled xs := by
  have hne : solidTokens xs ≠ [] := by
    rw [ne_eq, ← solid_eq_nil (l := l), hsolid]
    exact List.cons_ne_nil t r
  obtain ⟨lead, trail, hxs, hlead, htrail, hcore, hfirst, hlast⟩ := exists_strip hne
  obtain ⟨before, behind, rfl, rfl⟩ := h
  unfold spelled
  generalize strip xs = core at *
  subst hxs
  rw [solid_append, solid_append, solid_eq_nil.mpr hlead, solid_eq_nil.mpr htrail,
    List.nil_append, List.append_nil, ← Location.after_append] at hsolid
  obtain ⟨u, us, hu, hstart⟩ := Written.solid_ne_nil (l := Location.start.after (before ++ textOf lead))
    hcore hfirst
  obtain ⟨v, hv, hstop⟩ := Written.solid_getLast? (l := Location.start.after (before ++ textOf lead))
    hcore hlast
  rw [hsolid] at hu hv
  obtain ⟨rfl, rfl⟩ := List.cons.inj hu
  rw [List.getLast?_eq_some_getLast (List.cons_ne_nil t r)] at hv
  obtain rfl := Option.some.inj hv
  have hsource : before ++ (textOf (lead ++ (core ++ trail)) ++ behind)
      = (before ++ textOf lead) ++ (textOf core ++ (textOf trail ++ behind)) := by
    simp [Sql.textOf_append]
  rw [← Location.after_append] at hstop
  rw [expressionText, hstart, hstop, hsource, Text.byteOffset_after, ← List.append_assoc,
    Text.byteOffset_after, Text.byteCount_append (before ++ textOf lead), List.append_assoc,
    Text.slice_append]

/-! ## Keywords -/

/-- A keyword is no other keyword. -/
theorem isKeyword_eq {t : Token} {keyword : Text} (h : t.isKeyword keyword = true)
    (other : Text) : t.isKeyword other = Text.eqIgnoringCase keyword other := by
  cases t with
  | word value quoted =>
    cases quoted with
    | false =>
      simp only [Token.isKeyword, Text.eqIgnoringCase, beq_iff_eq] at h ⊢
      rw [h]
    | true => cases h
  | _ => cases h

theorem isAnyKeyword_eq {t : Token} {keyword : Text} (h : t.isKeyword keyword = true) (keywords : List Text) :
    t.isAnyKeyword keywords = keywords.any (Text.eqIgnoringCase keyword ·) := by
  rw [Token.isAnyKeyword]
  exact congrArg keywords.any (funext fun other => isKeyword_eq h other)

theorem not_isEnd_of_isKeyword {t : Token} {keyword : Text} (h : t.isKeyword keyword = true) :
    ¬ IsEnd t := by
  intro hend
  rw [hend.isKeyword] at h
  cases h

/-! ## Clauses -/

section Clauses

variable {source : Text} {t : Placed} {r rest : List Placed} {c : Option Constraint}

theorem isPlainClause_of_pairConstraint {first second : String} {c₀ : Constraint}
    (hpair : IsPair first second c₀) (ht : t.token.isKeyword first.toList = true)
    (h : pairConstraint second c₀ r = (c, rest)) : ∃ used, t :: r = used ++ rest
      ∧ IsPlainClause (used.map Placed.token) c (rest.map Placed.token) := by
  have hhalf (hr : Ahead (fun u => u.isKeyword second.toList = false) (r.map Placed.token)) :
      ∃ used, t :: r = used ++ r ∧ IsPlainClause (used.map Placed.token) none (r.map Placed.token) :=
    ⟨[t], rfl, .half hpair ht hr⟩
  rw [pairConstraint] at h
  cases r with
  | nil =>
    cases h
    exact hhalf ahead_nil
  | cons u r =>
    rw [afterKeyword?] at h
    cases hu : u.token.isKeyword second.toList with
    | true =>
      rw [hu] at h
      cases h
      exact ⟨[t, u], rfl, .pair hpair ht hu⟩
    | false =>
      rw [hu] at h
      cases h
      exact hhalf (ahead_cons.mpr hu)

theorem defaultValue_eq_ok {c : Constraint} : defaultValue source r = .ok (c, rest)
    ↔ ∃ u us, expressionTokens 0 true r = (u :: us, rest)
      ∧ c = .default (expressionText source u ((u :: us).getLast (List.cons_ne_nil u us))) := by
  rw [defaultValue]
  constructor
  · intro h
    split at h
    · cases h
    · next u us behind heq =>
      cases h
      exact ⟨u, us, heq, rfl⟩
  · rintro ⟨u, us, heq, rfl⟩
    rw [heq]

theorem peekWord?_isSome (t : Placed) (r : List Placed) :
    (peekWord? (t :: r)).isSome = t.token.isWord := by
  rw [peekWord?]
  cases t.token <;> rfl

/-- The word behind `CONSTRAINT` is taken along as its name. -/
theorem isPlainClause_of_name (ht : t.token.isKeyword "CONSTRAINT".toList = true)
    (hrest : (if (peekWord? r).isSome then r.tail else r) = rest) (hne : rest ≠ []) :
    ∃ used, t :: r = used ++ rest
      ∧ IsPlainClause (used.map Placed.token) none (rest.map Placed.token) := by
  cases r with
  | nil => exact absurd (hrest.symm.trans (ite_self [])) hne
  | cons u r =>
    rw [peekWord?_isSome] at hrest
    cases hu : u.token.isWord with
    | true =>
      rw [if_pos hu, List.tail_cons] at hrest
      subst hrest
      exact ⟨[t, u], rfl, .named ht hu⟩
    | false =>
      rw [if_neg (Bool.eq_false_iff.mp hu)] at hrest
      subst hrest
      exact ⟨[t], rfl, .nameless ht (ahead_cons.mpr hu)⟩

/-- A default value is spelled in the source as its lexemes are. -/
theorem isClause_of_defaultValue {c : Constraint} (ht : t.token.isKeyword "DEFAULT".toList = true)
    (h : defaultValue source r = .ok (c, rest)) (hne : rest ≠ []) : ∃ used, t :: r = used ++ rest
      ∧ ∀ {l xs}, Stands source l xs → solid l xs = used →
        IsClause xs (some c) (rest.map Placed.token) := by
  obtain ⟨u, us, hread, rfl⟩ := defaultValue_eq_ok.mp h
  obtain ⟨hexpression, hstops⟩ := isExpression_of_expressionTokens hread (List.cons_ne_nil u us) hne
  have hr := expressionTokens_append 0 true r
  rw [hread] at hr
  refine ⟨t :: u :: us, by rw [← hr]; rfl, fun {l xs} hstands hsolid => ?_⟩
  obtain ⟨ys, zs, rfl, hys, hzs⟩ := exists_split [t] hsolid
  rw [expressionText_eq_spelled hstands.right hzs]
  refine .default ?_ ht ?_ hstops
  · rw [← solid_map_token l, hys]
    rfl
  · rwa [← solid_map_token (l.after (textOf ys)), hzs]

/-- One clause is read, whatever it is. -/
theorem constraint_sound (h : constraint source t r = .ok (c, rest)) (ht : ¬ IsEnd t.token)
    (hne : rest ≠ []) : ∃ used, t :: r = used ++ rest
      ∧ ∀ {l xs}, Stands source l xs → solid l xs = used → IsClause xs c (rest.map Placed.token) := by
  have hplain {c : Option Constraint} (h : ∃ used, t :: r = used ++ rest
      ∧ IsPlainClause (used.map Placed.token) c (rest.map Placed.token)) :
      ∃ used, t :: r = used ++ rest ∧ ∀ {l xs}, Stands source l xs → solid l xs = used →
        IsClause xs c (rest.map Placed.token) := by
    obtain ⟨used, hused, hclause⟩ := h
    refine ⟨used, hused, fun {l xs} _ hsolid => .plain ?_⟩
    rwa [← solid_map_token l, hsolid]
  rw [constraint] at h
  split at h
  · obtain ⟨behind, hskip, hpair⟩ := map_eq_ok.mp h
    cases hpair
    obtain ⟨used, hused, hgroup⟩ := skipGroup_eq_ok.mp hskip
    exact hplain ⟨used, hused, .group hgroup⟩
  next hleft =>
  split at h
  · next hnot =>
    exact hplain (isPlainClause_of_pairConstraint .notNull hnot (Except.ok.inj h))
  next hnot =>
  split at h
  · next hnull =>
    cases h
    exact hplain ⟨[t], rfl, .single .null hnull⟩
  next hnull =>
  split at h
  · next hprimary =>
    exact hplain (isPlainClause_of_pairConstraint .primaryKey hprimary (Except.ok.inj h))
  next hprimary =>
  split at h
  · next hunique =>
    cases h
    exact hplain ⟨[t], rfl, .single .unique hunique⟩
  next hunique =>
  split at h
  · next hdefault =>
    obtain ⟨⟨c', behind⟩, hvalue, hpair⟩ := map_eq_ok.mp h
    cases hpair
    exact isClause_of_defaultValue hdefault hvalue hne
  next hdefault =>
  split at h
  · next hreferences =>
    obtain ⟨⟨c', behind⟩, href, hpair⟩ := map_eq_ok.mp h
    cases hpair
    obtain ⟨used, rfl, hused⟩ := reference_sound href
    exact hplain ⟨t :: used, rfl, .reference hreferences hused⟩
  next hreferences =>
  split at h
  · next hconstraint =>
    obtain ⟨rfl, hrest⟩ := Prod.mk.inj (Except.ok.inj h)
    exact hplain (isPlainClause_of_name hconstraint hrest hne)
  · next hconstraint =>
    cases h
    refine hplain ⟨[t], rfl, .other ⟨hleft, ?_, ?_⟩ ?_⟩
    · exact fun hright => ht (.inr hright)
    · exact fun hcomma => ht (.inl hcomma)
    · simp only [clauseKeywords, List.forall_mem_cons, List.not_mem_nil, false_implies,
        implies_true, and_true]
      exact ⟨Bool.eq_false_iff.mpr hnot, Bool.eq_false_iff.mpr hnull, Bool.eq_false_iff.mpr hprimary,
        Bool.eq_false_iff.mpr hunique, Bool.eq_false_iff.mpr hdefault,
        Bool.eq_false_iff.mpr hreferences, Bool.eq_false_iff.mpr hconstraint⟩

theorem isPlain_of_isKeyword {u : Token} {keyword : Text} (h : u.isKeyword keyword = true) :
    IsPlain u := isPlain_of_isWord (isWord_of_isKeyword h)

theorem afterKeyword?_eq_none {keyword : Text} (h : Ahead (fun u => u.isKeyword keyword = false)
    (r.map Placed.token)) : afterKeyword? keyword r = none := by
  cases r with
  | nil => rfl
  | cons u r =>
    rw [List.map_cons, ahead_cons] at h
    rw [afterKeyword?, h]
    rfl

/-- A clause that is no default value is read as what it is. -/
theorem constraint_plain {used : List Placed}
    (h : IsPlainClause (used.map Placed.token) c (rest.map Placed.token)) :
    ∃ t r, used = t :: r ∧ ¬ IsEnd t.token ∧ constraint source t (r ++ rest) = .ok (c, rest) := by
  generalize htokens : used.map Placed.token = tokens at h
  generalize hbehind : rest.map Placed.token = behind at h
  cases h with
  | group hgroup =>
    subst htokens
    have hskip : skipGroup (used ++ rest) = .ok rest := skipGroup_eq_ok.mpr ⟨used, rfl, hgroup⟩
    obtain ⟨t, inner, rfl, ht, -⟩ := exists_cons_of_isGroup hgroup
    refine ⟨t, inner, rfl, ?_, ?_⟩
    · rw [ht]
      rintro (heq | heq) <;> cases heq
    · rw [constraint, if_pos ht]
      rw [List.cons_append] at hskip
      rw [hskip]
      rfl
  | single hsingle ht =>
    obtain ⟨t, rfl, rfl⟩ := List.map_eq_singleton_iff.mp htokens
    refine ⟨t, [], rfl, not_isEnd_of_isKeyword ht, ?_⟩
    cases hsingle <;>
    · simp only [constraint, if_neg (isPlain_of_isKeyword ht).1, isKeyword_eq ht]
      rfl
  | pair hpair ht hu =>
    obtain ⟨t, us, rfl, rfl, hus⟩ := List.map_eq_cons_iff.mp htokens
    obtain ⟨u, rfl, rfl⟩ := List.map_eq_singleton_iff.mp hus
    refine ⟨t, [u], rfl, not_isEnd_of_isKeyword ht, ?_⟩
    have hafter : afterKeyword? _ ([u] ++ rest) = some rest := if_pos hu
    cases hpair <;>
    · simp only [constraint, if_neg (isPlain_of_isKeyword ht).1, isKeyword_eq ht, pairConstraint,
        hafter]
      rfl
  | half hpair ht hrest =>
    subst hbehind
    obtain ⟨t, rfl, rfl⟩ := List.map_eq_singleton_iff.mp htokens
    refine ⟨t, [], rfl, not_isEnd_of_isKeyword ht, ?_⟩
    have hafter := afterKeyword?_eq_none hrest
    cases hpair <;>
    · simp only [constraint, if_neg (isPlain_of_isKeyword ht).1, isKeyword_eq ht, pairConstraint,
        List.nil_append, hafter]
      rfl
  | reference ht hreference =>
    subst hbehind
    obtain ⟨t, us, rfl, rfl, rfl⟩ := List.map_eq_cons_iff.mp htokens
    have hread := reference_complete hreference
    refine ⟨t, us, rfl, not_isEnd_of_isKeyword ht, ?_⟩
    simp only [constraint, if_neg (isPlain_of_isKeyword ht).1, isKeyword_eq ht, hread]
    rfl
  | named ht hu =>
    obtain ⟨t, us, rfl, rfl, hus⟩ := List.map_eq_cons_iff.mp htokens
    obtain ⟨u, rfl, rfl⟩ := List.map_eq_singleton_iff.mp hus
    refine ⟨t, [u], rfl, not_isEnd_of_isKeyword ht, ?_⟩
    simp only [constraint, if_neg (isPlain_of_isKeyword ht).1, isKeyword_eq ht, List.cons_append,
      peekWord?_isSome, hu]
    rfl
  | nameless ht hrest =>
    subst hbehind
    obtain ⟨t, rfl, rfl⟩ := List.map_eq_singleton_iff.mp htokens
    refine ⟨t, [], rfl, not_isEnd_of_isKeyword ht, ?_⟩
    have hpeek : (peekWord? rest).isSome = false := by
      cases rest with
      | nil => rfl
      | cons u r => exact (peekWord?_isSome u r).trans (hrest u.token rfl)
    simp only [constraint, if_neg (isPlain_of_isKeyword ht).1, isKeyword_eq ht, List.nil_append,
      hpeek]
    rfl
  | other ht hfree =>
    obtain ⟨t, rfl, rfl⟩ := List.map_eq_singleton_iff.mp htokens
    refine ⟨t, [], rfl, ?_, ?_⟩
    · rintro (heq | heq)
      · exact ht.2.2 heq
      · exact ht.2.1 heq
    · simp only [clauseKeywords, List.forall_mem_cons] at hfree
      simp only [constraint, if_neg ht.1, hfree, Bool.false_eq_true, if_false, List.nil_append]

/-- A clause is read as what it is, wherever it stands. -/
theorem constraint_complete {l : Location} {xs : List Lexeme} (hstands : Stands source l xs)
    (h : IsClause xs c (rest.map Placed.token)) :
    ∃ t r, solid l xs = t :: r ∧ ¬ IsEnd t.token ∧ constraint source t (r ++ rest) = .ok (c, rest) := by
  cases h with
  | plain h => exact constraint_plain (by rwa [solid_map_token])
  | @default keyword value _ _ hkeyword ht hvalue hrest =>
    rw [← solid_map_token l] at hkeyword
    obtain ⟨t, hsolid, rfl⟩ := List.map_eq_singleton_iff.mp hkeyword
    rw [← solid_map_token (l.after (textOf keyword))] at hvalue
    have hread := expressionTokens_complete hvalue hrest
    obtain ⟨u, us, hu⟩ := List.exists_cons_of_ne_nil
      (l := solid (l.after (textOf keyword)) value) fun h => hvalue.ne_nil (by rw [h]; rfl)
    rw [hu] at hread
    have hdefault : defaultValue source _ = _ := defaultValue_eq_ok.mpr ⟨u, us, hread, rfl⟩
    rw [expressionText_eq_spelled hstands.right hu] at hdefault
    refine ⟨t, u :: us, ?_, not_isEnd_of_isKeyword ht, ?_⟩
    · rw [solid_append, hsolid, hu]
      rfl
    · simp only [constraint, if_neg (isPlain_of_isKeyword ht).1, isKeyword_eq ht, hdefault]
      rfl

/-! ## Clauses in a row -/

theorem constraints_of_isEnd {t : Placed} (ht : IsEnd t.token) (r : List Placed) :
    constraints source (t :: r) = .ok ([], t :: r) := by
  rw [constraints, if_pos (by rcases ht with h | h <;> simp [h])]

theorem constraints_cons (ht : ¬ IsEnd t.token) (h : constraint source t r = .ok (c, rest)) :
    constraints source (t :: r)
      = (constraints source rest).map fun p => (c.toList ++ p.1, p.2) := by
  rw [constraints, if_neg (by simpa [IsEnd] using ht)]
  split
  · next heq =>
    rw [h] at heq
    cases heq
  · next heq =>
    rw [h] at heq
    cases heq
    cases constraints source rest <;> rfl

/-- Where the clauses of a column end before the end of all tokens, they are read in
order. -/
theorem constraints_sound {ts : List Placed} {cs : List Constraint}
    (h : constraints source ts = .ok (cs, rest)) (hne : rest ≠ []) :
    Ahead IsEnd (rest.map Placed.token) ∧ ∃ used, ts = used ++ rest
      ∧ ∀ {l xs}, Stands source l xs → solid l xs = used →
        IsClauses xs cs (rest.map Placed.token) := by
  fun_induction constraints source ts generalizing cs with
  | case1 =>
    cases h
    exact absurd rfl hne
  | case2 t r hend =>
    cases h
    refine ⟨by simpa [IsEnd] using hend, [], rfl, fun {l xs} _ hsolid => .nil ?_⟩
    exact solid_eq_nil.mp hsolid
  | case3 => cases h
  | case4 => cases h
  | case5 t r hend c behind hc cs' rest' hcs ih =>
    cases h
    obtain ⟨hrest, used', hused', hclauses⟩ := ih hcs
    have hbehind : behind ≠ [] := by
      rw [hused']
      exact List.append_ne_nil_of_right_ne_nil used' hne
    obtain ⟨used, hused, hclause⟩ := constraint_sound hc (by simpa [IsEnd] using hend) hbehind
    refine ⟨hrest, used ++ used', by rw [hused, hused', List.append_assoc], ?_⟩
    intro l xs hstands hsolid
    obtain ⟨ys, zs, rfl, hys, hzs⟩ := exists_split _ hsolid
    refine .cons ?_ (hclauses hstands.right hzs)
    have hclause := hclause hstands.left hys
    rwa [hused', List.map_append, ← hzs, solid_map_token] at hclause

/-- Clauses are read in order, and reading goes on behind them. -/
theorem constraints_clauses {l : Location} {xs : List Lexeme} {cs : List Constraint}
    (rest : List Placed) (hstands : Stands source l xs)
    (h : IsClauses xs cs (rest.map Placed.token)) :
    constraints source (solid l xs ++ rest)
      = (constraints source rest).map fun p => (cs ++ p.1, p.2) := by
  generalize hbehind : rest.map Placed.token = behind at h
  induction h generalizing l with
  | nil hxs =>
    rw [solid_eq_nil.mpr hxs, List.nil_append]
    cases constraints source rest <;> rfl
  | @cons xs ys c cs _ hclause _ ih =>
    subst hbehind
    rw [solid_append, List.append_assoc]
    have hmap : IsClause xs c
        ((solid (l.after (textOf xs)) ys ++ rest).map Placed.token) := by
      rwa [List.map_append, solid_map_token]
    obtain ⟨t, r, hsolid, ht, hread⟩ := constraint_complete hstands.left hmap
    rw [hsolid, List.cons_append, constraints_cons ht hread, ih hstands.right rfl]
    cases constraints source rest with
    | error e => rfl
    | ok p => simp [Except.map]

/-- What is behind clauses that reach so far are clauses, if all of it is. -/
theorem IsClauses.append_iff {xs ys : List Lexeme} {cs cs' : List Constraint}
    (h : IsClauses xs cs (solidTokens ys ++ [.rightParen])) :
    IsClauses (xs ++ ys) cs' [.rightParen]
      ↔ ∃ ds, IsClauses ys ds [.rightParen] ∧ cs' = cs ++ ds := by
  constructor
  · intro h'
    have hstands := stands_textOf (xs ++ ys)
    have hall := constraints_clauses [anyClosing] hstands h'
    rw [constraints_of_isEnd isEnd_rightParen] at hall
    rw [← solid_map_token (Location.start.after (textOf xs))] at h
    have hfront := constraints_clauses
      (solid (Location.start.after (textOf xs)) ys ++ [anyClosing]) hstands.left
      (by rw [List.map_append]; exact h)
    rw [solid_append, List.append_assoc, hfront] at hall
    obtain ⟨⟨ds, rest⟩, hds, heq⟩ := map_eq_ok.mp hall
    obtain ⟨hcs, rfl⟩ := Prod.mk.inj heq
    obtain ⟨-, used, hused, hclauses⟩ := constraints_sound hds (List.cons_ne_nil _ _)
    refine ⟨ds, hclauses hstands.right (List.append_cancel_right hused), ?_⟩
    rw [hcs, List.append_nil]
  · rintro ⟨ds, hds, rfl⟩
    exact h.append hds

end Clauses

end TableScaffold.Grammar
