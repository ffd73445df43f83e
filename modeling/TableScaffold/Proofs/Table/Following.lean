import TableScaffold.Proofs.Table.Clauses

set_option autoImplicit false

/-!
# A keyword behind a part

A type, an expression and a clause end at the keyword of another constraint, so a column
may stand in front of such a keyword.  Only a `CONSTRAINT` without a name takes it for its
name (`IsColumn.keyword`).
-/

namespace TableScaffold.Grammar

open Sql (Lexeme Token)
open Written (solidTokens)

/-- A keyword at which types and expressions end, and which is no second keyword of a
constraint. -/
structure EndsPart (t : Token) : Prop where
  keyword : t.isAnyKeyword constraintKeywords = true
  null : t.isKeyword "NULL".toList = false
  key : t.isKeyword "KEY".toList = false

theorem endsPart_of_isKeyword {t : Token} {keyword : String} (h : t.isKeyword keyword.toList = true)
    (hany : constraintKeywords.any (Text.eqIgnoringCase keyword.toList ·) = true)
    (hnull : Text.eqIgnoringCase keyword.toList "NULL".toList = false)
    (hkey : Text.eqIgnoringCase keyword.toList "KEY".toList = false) : EndsPart t where
  keyword := (isAnyKeyword_eq h _).trans hany
  null := (isKeyword_eq h _).trans hnull
  key := (isKeyword_eq h _).trans hkey

/-- Tokens end with `CONSTRAINT`, and no word comes next. -/
def Nameless (ts rest : List Token) : Prop :=
  (∃ u ∈ ts.getLast?, u.isKeyword "CONSTRAINT".toList = true)
    ∧ Ahead (fun u => u.isWord = false) rest

theorem Nameless.append {ts rest : List Token} (h : Nameless ts rest) (us : List Token) :
    Nameless (us ++ ts) rest := by
  obtain ⟨⟨u, hu, hkeyword⟩, hrest⟩ := h
  refine ⟨⟨u, ?_, hkeyword⟩, hrest⟩
  rw [List.getLast?_append, Option.mem_def.mp hu]
  rfl

theorem EndsPart.isWord {t : Token} (ht : EndsPart t) : t.isWord = true := by
  obtain ⟨value, rfl⟩ := Written.isAnyKeyword_eq_true ht.keyword
  rfl

section Keyword

variable {xs g : List Lexeme} {t : Token} {rest : List Token} {c : Option Constraint}

theorem IsPlainClause.keyword {ts : List Token} (h : IsPlainClause ts c rest) (ht : EndsPart t)
    (rest' : List Token) : IsPlainClause ts c (t :: rest')
      ∨ IsPlainClause (ts ++ [t]) c rest' ∧ Nameless ts rest := by
  have hplain : IsPlain t := isPlain_of_isWord ht.isWord
  cases h with
  | group h => exact .inl (.group h)
  | single h hu => exact .inl (.single h hu)
  | pair h hu hv => exact .inl (.pair h hu hv)
  | half h hu =>
    refine .inl (.half h hu (ahead_cons.mpr ?_))
    cases h with
    | notNull => exact ht.null
    | primaryKey => exact ht.key
  | reference hu h =>
    refine .inl (.reference hu ?_)
    cases h with
    | table hname =>
      refine .table hname (ahead_cons.mpr ⟨?_, hplain.1⟩)
      rintro rfl
      cases ht.isWord
    | column hname hgroup => exact .column hname hgroup
  | named hu hv => exact .inl (.named hu hv)
  | @nameless u _ hu hrest => exact .inr ⟨.named hu ht.isWord, ⟨u, rfl, hu⟩, hrest⟩
  | other hu hfree => exact .inl (.other hu hfree)

theorem IsClause.keyword (h : IsClause xs c rest) (ht : EndsPart t) (hg : solidTokens g = [t])
    (rest' : List Token) : IsClause xs c (t :: rest')
      ∨ IsClause (xs ++ g) c rest' ∧ Nameless (solidTokens xs) rest := by
  cases h with
  | plain h =>
    refine (h.keyword ht rest').imp .plain (And.imp_left fun h => .plain ?_)
    rwa [solidTokens_append, hg]
  | default hkeyword hdefault hvalue =>
    exact .inl (.default hkeyword hdefault hvalue (ahead_cons.mpr (.inr ht.keyword)))

/-- Clauses end in front of a keyword, or take it for the name of the last one. -/
theorem IsClauses.keyword {cs : List Constraint} (h : IsClauses xs cs rest) (ht : EndsPart t)
    (hg : solidTokens g = [t]) (rest' : List Token) : IsClauses xs cs (t :: rest')
      ∨ IsClauses (xs ++ g) cs rest' ∧ Nameless (solidTokens xs) rest := by
  induction h with
  | nil h => exact .inl (.nil h)
  | @cons xs ys c cs rest hclause hys ih =>
    cases hys' : solidTokens ys with
    | cons u us =>
      -- what is behind the clause stays behind it
      have honward (more : List Token) : IsClause xs c (solidTokens ys ++ more) := by
        rw [hys'] at hclause ⊢
        exact hclause.onward (.inl rfl)
      refine ih.imp (fun h => .cons (honward _) h) ?_
      rintro ⟨h, hname⟩
      rw [List.append_assoc, solidTokens_append]
      refine ⟨.cons ?_ h, hname.append _⟩
      rw [solidTokens_append, List.append_assoc]
      exact honward _
    | nil =>
      obtain rfl := hys.eq_nil_of_blank hys'
      have hlast : solidTokens (ys ++ g) = [t] := by
        rw [solidTokens_append, hys', hg, List.nil_append]
      rw [hys', List.nil_append] at hclause
      refine (hclause.keyword ht hlast rest').imp (fun h => .cons ?_ (.nil hys')) ?_
      · rwa [hys']
      · rintro ⟨h, hname⟩
        rw [List.append_nil, List.append_assoc, solidTokens_append, hys', List.append_nil]
        exact ⟨h.isClauses, hname⟩

theorem IsType.keyword {ts : List Token} {words : List Text} (h : IsType ts words rest)
    (ht : EndsPart t) (rest' : List Token) : IsType ts words (t :: rest') := by
  have hstops : StopsType t := fun _ => ht.keyword
  cases h with
  | words h hne =>
    exact .words h hne (ahead_cons.mpr ⟨hstops, (isPlain_of_isWord ht.isWord).1⟩)
  | group h hne hgroup h' => exact .group h hne hgroup h' (ahead_cons.mpr hstops)

/-- A column ends in front of a keyword, or takes it for the name of its last constraint. -/
theorem IsColumn.keyword {c : Column} (h : IsColumn xs c rest) (ht : EndsPart t)
    (hg : solidTokens g = [t]) (rest' : List Token) : IsColumn xs c (t :: rest')
      ∨ IsColumn (xs ++ g) c rest' ∧ Nameless (solidTokens xs) rest := by
  cases h with
  | @intro name type clauses _ _ words _ _ hname htype hclauses =>
    have htype' (more : List Token) :
        IsType (solidTokens type) words (solidTokens clauses ++ t :: more) := by
      cases hsolid : solidTokens clauses with
      | cons u us =>
        rw [hsolid] at htype
        exact htype.onward (.inl rfl)
      | nil => exact htype.keyword ht more
    refine (hclauses.keyword ht hg rest').imp (fun h => .intro hname (htype' rest') h) ?_
    rintro ⟨h, hlast⟩
    rw [List.append_assoc, solidTokens_append]
    refine ⟨.intro hname ?_ h, hlast.append _⟩
    rw [solidTokens_append, hg, List.append_assoc]
    exact htype' rest'

end Keyword

end TableScaffold.Grammar
