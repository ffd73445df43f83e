import TableScaffold.Proofs.Table.Outline

set_option autoImplicit false

/-!
# Tables among other tokens

A column list is read up to the parenthesis that closes it and no further, wherever it stands
(`entries_elsewhere`), and so is what stands behind a header (`table_elsewhere`).  The first
header behind tokens that hold none is the one that comes next, for no keyword of a header
begins one, and so no header reaches over the seam (`afterHeader?_behind`).  Hence a table
definition is read alike whatever stands in front of it and behind it
(`Table.read_among_others`).
-/

namespace TableScaffold

open Grammar
open Sql (Lexeme Placed Token textOf)
open Written (solid solidTokens solid_append solid_map_token)

namespace Grammar

/-! ## Column lists elsewhere -/

section Elsewhere

variable {source : Text} {l : Location} {xs ys : List Lexeme} {rest : List Placed}

/-- A single token is a single token wherever its lexemes stand. -/
theorem exists_solid_singleton {u : Placed} (h : solid l ys = [u]) (l' : Location) :
    ∃ v, solid l' ys = [v] ∧ v.token = u.token := by
  have htokens : (solid l' ys).map Placed.token = [u.token] := by
    rw [solid_map_token, ← solid_map_token l, h, List.map_singleton]
  exact List.map_eq_singleton_iff.mp htokens

/-- A column list that begins with an item, with an end behind it. -/
theorem entries_item {cs : List Column} {c : Option Column} {v : Placed} {more : List Placed}
    (hstands : Stands source l ys) (hitem : IsItem ys c) (hv : IsEnd v.token) :
    entries source (solid l ys ++ v :: more) = .ok (cs, rest)
      ↔ v.token = .comma ∧ (∃ cs', entries source more = .ok (cs', rest) ∧ cs = c.toList ++ cs')
        ∨ v.token = .rightParen ∧ cs = c.toList ∧ rest = more := by
  have hentry := entry_complete more hv hstands hitem
  obtain ⟨t, r, hsolid, ht⟩ := hitem.isPart.solid_cons (l := l)
  rw [hsolid, List.cons_append] at hentry ⊢
  rw [entries_cons_eq_ok ht]
  constructor
  · rintro ⟨c', u, behind, hread, hrest⟩
    obtain ⟨rfl, htail⟩ := Prod.mk.inj (Except.ok.inj (hentry.symm.trans hread))
    obtain ⟨rfl, rfl⟩ := List.cons.inj htail
    exact hrest
  · intro hrest
    exact ⟨c, v, more, hentry, hrest⟩

/-- A column list ends at its closing parenthesis, and up to there it has the same columns
wherever it stands, whatever is behind it. -/
theorem entries_elsewhere {cs : List Column} (hstands : Stands source l xs)
    (h : entries source (solid l xs) = .ok (cs, rest)) :
    ∃ list more, xs = list ++ more ∧ ∀ {source' l'}, Stands source' l' list → ∀ behind,
      entries source' (solid l' list ++ behind) = .ok (cs, behind) := by
  induction hn : (solid l xs).length using Nat.strong_induction_on generalizing l xs cs with
  | _ n ih =>
    subst hn
    cases hsolid : solid l xs with
    | nil =>
      rw [hsolid, entries] at h
      cases h
    | cons t r =>
      by_cases ht : t.token = .rightParen
      · rw [hsolid, entries, if_pos ht] at h
        cases h
        obtain ⟨list, more, rfl, hlist, -⟩ := exists_split [t] hsolid
        refine ⟨list, more, rfl, fun {source' l'} _ behind => ?_⟩
        obtain ⟨u, hu, htoken⟩ := exists_solid_singleton hlist l'
        rw [hu, List.singleton_append, entries, if_pos (htoken.trans ht)]
      · rw [hsolid, entries_cons_eq_ok ht] at h
        obtain ⟨c, u, left, hentry, hleft⟩ := h
        obtain ⟨hend, used, hused, hitem⟩ := entry_sound hentry (List.cons_ne_nil u left)
        obtain ⟨ys, zs, rfl, hys, hzs⟩ := exists_split _ (hsolid.trans hused)
        obtain ⟨ws, vs, rfl, hws, hvs⟩ := exists_split [u] hzs
        replace hitem := hitem hstands.left hys
        replace hend : IsEnd u.token := hend u.token rfl
        rcases hleft with ⟨hu, cs', hcs', rfl⟩ | ⟨hu, rfl, rfl⟩
        · have hlength : (solid ((l.after (textOf ys)).after (textOf ws)) vs).length
              < (solid l (ys ++ (ws ++ vs))).length := by
            rw [hsolid, hused, hvs, List.length_append, List.length_cons]
            omega
          obtain ⟨list, more, rfl, hlist⟩ :=
            ih _ hlength hstands.right.right (by rw [hvs]; exact hcs') rfl
          refine ⟨ys ++ (ws ++ list), more, by simp, fun {source' l'} hstands' behind => ?_⟩
          obtain ⟨v, hv, htoken⟩ := exists_solid_singleton hws (l'.after (textOf ys))
          rw [solid_append, solid_append, hv, List.append_assoc, List.append_assoc,
            List.singleton_append, entries_item hstands'.left hitem (htoken ▸ hend)]
          exact .inl ⟨htoken.trans hu, cs', hlist hstands'.right.right behind, rfl⟩
        · refine ⟨ys ++ ws, vs, by simp, fun {source' l'} hstands' behind => ?_⟩
          obtain ⟨v, hv, htoken⟩ := exists_solid_singleton hws (l'.after (textOf ys))
          rw [solid_append, hv, List.append_assoc, List.singleton_append,
            entries_item hstands'.left hitem (htoken ▸ hend)]
          exact .inr ⟨htoken.trans hu, rfl, rfl⟩

/-- Behind its header, a table is what its lexemes say, wherever they stand and whatever is
behind them. -/
theorem table_elsewhere {t : Table} (hstands : Stands source l xs)
    (h : table source (solid l xs) = .ok (t, rest)) {source' : Text} {l' : Location}
    (hstands' : Stands source' l' xs) (behind : List Placed) :
    ∃ rest', table source' (solid l' xs ++ behind) = .ok (t, rest') := by
  obtain ⟨words, u, r, hsolid, hname, hu, hentries⟩ := table_sound h
  obtain ⟨ys, zs, rfl, rfl, hzs⟩ := exists_split _ hsolid
  obtain ⟨ws, vs, rfl, hws, rfl⟩ := exists_split [u] hzs
  obtain ⟨list, more, rfl, hlist⟩ := entries_elsewhere hstands.right.right hentries
  obtain ⟨v, hv, htoken⟩ := exists_solid_singleton hws (l'.after (textOf ys))
  have hread := hlist hstands'.right.right.left
    (solid (((l'.after (textOf ys)).after (textOf ws)).after (textOf list)) more ++ behind)
  rw [← List.append_assoc, ← solid_append] at hread
  rw [solid_map_token, ← solid_map_token l'] at hname
  have hwords := qualifiedName_complete .table
    (v :: (solid ((l'.after (textOf ys)).after (textOf ws)) (list ++ more) ++ behind)) hname
    (by simp [htoken, hu])
  rw [solid_append, solid_append, hv, List.append_assoc, List.append_assoc, List.singleton_append,
    table, hwords]
  simp only [htoken, hu, if_true, hread, Except.ok.injEq, Prod.mk.injEq, true_and, exists_eq']

end Elsewhere

/-! ## Headers behind other tokens -/

/-- The keywords of a header stand among tokens, one behind the other. -/
def HoldsHeader (ts : List Token) : Prop :=
  ∃ before keywords behind, ts = before ++ (keywords ++ behind) ∧ IsHeader keywords

/-- Tokens begin with the keywords of a header. -/
def BeginsWithHeader (ts : List Token) : Prop :=
  ∃ keywords behind, ts = keywords ++ behind ∧ IsHeader keywords

theorem HoldsHeader.cons {ts : List Token} (h : HoldsHeader ts) (t : Token) :
    HoldsHeader (t :: ts) := by
  obtain ⟨before, keywords, behind, rfl, hkeywords⟩ := h
  exact ⟨t :: before, keywords, behind, rfl, hkeywords⟩

/-- No keyword of a header but its first one begins a header. -/
theorem IsHeader.not_isHeader_cons {us vs ws : List Token} {t : Token} (h : IsHeader (us ++ t :: vs))
    (hus : us ≠ []) : ¬ IsHeader (t :: ws) := by
  intro hother
  obtain ⟨u, us, rfl⟩ := List.exists_cons_of_ne_nil hus
  obtain ⟨-, hmore⟩ := List.forall₂_cons.mp h
  obtain ⟨front, keyword, back, hkeywords, -, hkeyword, -⟩ := forall₂_append_cons_iff.mp hmore.flip
  obtain ⟨hfirst, -⟩ := List.forall₂_cons.mp hother
  have hdistinct : ∀ keyword ∈ headerKeywords.tail,
      Text.eqIgnoringCase "CREATE".toList keyword = false := by
    decide
  have hmem : keyword ∈ headerKeywords.tail := by
    change keyword ∈ ["TABLE", "IF", "NOT", "EXISTS"].map String.toList
    rw [show ["TABLE", "IF", "NOT", "EXISTS"].map String.toList = front ++ keyword :: back from
      hkeywords]
    exact List.mem_append_cons_self
  have hsame := isKeyword_eq hfirst keyword
  rw [show t.isKeyword keyword = true from hkeyword, hdistinct keyword hmem] at hsame
  cases hsame

section Behind

variable {before keywords rest ts : List Placed}

/-- Behind tokens that hold no header, the header that comes next is the first one. -/
theorem afterHeader?_behind (hbefore : ¬ HoldsHeader (before.map Placed.token))
    (hkeywords : IsHeader (keywords.map Placed.token)) :
    afterHeader? (before ++ (keywords ++ rest)) = some rest := by
  induction before with
  | nil => exact afterHeader?_append hkeywords
  | cons t before ih =>
    rw [List.cons_append, afterHeader?]
    cases hread : afterKeywords? headerKeywords (t :: (before ++ (keywords ++ rest))) with
    | none => exact ih fun h => hbefore (h.cons t.token)
    | some body =>
      -- a header that begins with `t` ends among the tokens in front, or reaches over the seam
      obtain ⟨used, hused, hheader⟩ := afterKeywords?_eq_some.mp hread
      replace hheader : IsHeader (used.map Placed.token) := hheader
      rw [← List.cons_append] at hused
      rcases List.append_eq_append_iff.mp hused with ⟨beyond, rfl, hbeyond⟩ | ⟨more, hmore, -⟩
      · cases beyond with
        | nil =>
          rw [List.append_nil] at hheader
          exact absurd ⟨[], _, [], by simp, hheader⟩ hbefore
        | cons u beyond =>
          cases keywords with
          | nil => cases hkeywords
          | cons k keywords =>
            obtain ⟨rfl, -⟩ := List.cons.inj hbeyond
            rw [List.map_append, List.map_cons] at hheader
            exact absurd hkeywords (hheader.not_isHeader_cons (List.cons_ne_nil _ _))
      · rw [hmore, List.map_append] at hbefore
        exact absurd ⟨[], _, _, rfl, hheader⟩ hbefore

theorem afterHeader?_eq_none : afterHeader? ts = none ↔ ¬ HoldsHeader (ts.map Placed.token) := by
  constructor
  · rintro hnone ⟨before, keywords, behind, hsplit, hkeywords⟩
    induction before generalizing ts with
    | nil =>
      rw [List.nil_append] at hsplit
      obtain ⟨used, rest, rfl, rfl, -⟩ := List.map_eq_append_iff.mp hsplit
      rw [afterHeader?_append hkeywords] at hnone
      cases hnone
    | cons u before ih =>
      obtain ⟨t, r, rfl, -, hr⟩ := List.map_eq_cons_iff.mp hsplit
      rw [afterHeader?] at hnone
      split at hnone
      · cases hnone
      · exact ih hnone hr
  · intro hholds
    rw [Option.eq_none_iff_forall_not_mem]
    intro rest hrest
    obtain ⟨before, used, rfl, hused⟩ := exists_header hrest
    exact hholds ⟨_, _, _, by rw [List.map_append, List.map_append, List.append_assoc], hused⟩

end Behind

end Grammar

/-! ## Tables among other tokens -/

/-- Only the keywords of a header count as such, and without them there is no table, whatever
else there is. -/
theorem Table.ofTokens_eq_tableNotFound {source : Text} {ts : List Placed} :
    Table.ofTokens source ts = .error .tableNotFound ↔ ¬ HoldsHeader (ts.map Placed.token) := by
  rw [← afterHeader?_eq_none, Table.ofTokens]
  constructor
  · intro h
    split at h
    · assumption
    · split at h <;> cases h
  · intro h
    rw [h]

/-- A table definition is read alike wherever its lexemes stand, behind tokens that hold no
header and in front of any tokens. -/
theorem Table.ofTokens_elsewhere {source source' : Text} {l l' : Location} {xs : List Lexeme}
    {t : Table} (hstands : Stands source l xs) (hstands' : Stands source' l' xs)
    (hheader : BeginsWithHeader (solidTokens xs))
    (h : Table.ofTokens source (solid l xs) = .ok t) {before : List Placed}
    (hbefore : ¬ HoldsHeader (before.map Placed.token)) (behind : List Placed) :
    Table.ofTokens source' (before ++ (solid l' xs ++ behind)) = .ok t := by
  obtain ⟨keywords, tokens, hxs, hkeywords⟩ := hheader
  obtain ⟨ks, ys, rfl, rfl, -⟩ := exists_split_tokens keywords hxs
  have hheader (l : Location) : IsHeader ((solid l ks).map Placed.token) := by
    rwa [solid_map_token]
  obtain ⟨body, rest, hbody, htable⟩ := Table.ofTokens_eq_ok.mp h
  rw [solid_append, afterHeader?_append (hheader l)] at hbody
  cases hbody
  obtain ⟨rest', hread⟩ := table_elsewhere hstands.right htable hstands'.right behind
  refine Table.ofTokens_eq_ok.mpr ⟨_, rest', ?_, hread⟩
  rw [solid_append, List.append_assoc, afterHeader?_behind hbefore (hheader l')]

/-- A table definition is read alike wherever its lexemes stand, behind tokens that hold no
header and in front of any tokens.  Tokens that hold no header define no table, whatever else
they are. -/
theorem Table.read_among_others {source source' : Text} {l l' : Location} {xs : List Lexeme}
    {t : Table} (hstands : Stands source l xs) (hstands' : Stands source' l' xs)
    (hheader : BeginsWithHeader (solidTokens xs))
    (h : Table.ofTokens source (solid l xs) = .ok t) :
    (∀ before behind, ¬ HoldsHeader (before.map Placed.token) →
        Table.ofTokens source' (before ++ (solid l' xs ++ behind)) = .ok t)
      ∧ ∀ source ts, Table.ofTokens source ts = .error .tableNotFound
        ↔ ¬ HoldsHeader (ts.map Placed.token) :=
  ⟨fun _ behind hbefore => Table.ofTokens_elsewhere hstands hstands' hheader h hbefore behind,
    fun _ _ => Table.ofTokens_eq_tableNotFound⟩

namespace Sample

/-- A header with a keyword in quotes, and one that breaks off. -/
def falseStarts : List Lexeme :=
  words ["CREATE", "TABLE", "IF", "NOT"] ++ ⟨.word "EXISTS".toList true, "\"EXISTS\"".toList⟩
    :: words ["CREATE", "TABLE", "IF", "NOT"] ++ [Written.space]

/-- A table of one column, the default value of which is a call. -/
def called : List Lexeme :=
  words ["create", "Table", "IF", "NOT", "EXISTS", "t"] ++ opening :: defaulted ++ [closing]

/-- Another table, without an end. -/
def leftovers : List Lexeme :=
  closing :: comma :: words ["CREATE", "TABLE", "IF", "NOT", "EXISTS", "u"] ++ [opening]

end Sample

theorem Table.read_among_others_false_starts :
    Table.ofTokens (textOf (Sample.falseStarts ++ (Sample.called ++ Sample.leftovers)))
        (solid Location.start Sample.falseStarts
          ++ (solid (Location.start.after (textOf Sample.falseStarts)) Sample.called
            ++ solid (Location.start.after (textOf (Sample.falseStarts ++ Sample.called)))
              Sample.leftovers))
        = .ok ⟨"t".toList, [⟨"a".toList, "int".toList, [.default "f(1,2)".toList]⟩]⟩
      ∧ Table.ofTokens (textOf Sample.falseStarts) (solid Location.start Sample.falseStarts)
        = .error .tableNotFound := by
  have hcalled : Table.ofTokens (textOf Sample.called) (solid Location.start Sample.called)
      = .ok ⟨"t".toList, [⟨"a".toList, "int".toList, [.default "f(1,2)".toList]⟩]⟩ := by
    decide +kernel
  have hheader : BeginsWithHeader (solidTokens Sample.called) := by
    refine ⟨["create", "Table", "IF", "NOT", "EXISTS"].map (Token.word ·.toList false), _, rfl, ?_⟩
    simp only [IsHeader, headerKeywords, List.forall₂_map_left_iff, List.forall₂_map_right_iff]
    decide
  have hstands : Stands (textOf (Sample.falseStarts ++ (Sample.called ++ Sample.leftovers)))
      (Location.start.after (textOf Sample.falseStarts)) Sample.called :=
    (stands_textOf _).right.left
  have hfalse : ¬ HoldsHeader ((solid Location.start Sample.falseStarts).map Placed.token) :=
    afterHeader?_eq_none.mp (by decide +kernel)
  obtain ⟨hbehind, hnone⟩ :=
    Table.read_among_others (stands_textOf Sample.called) hstands hheader hcalled
  exact ⟨hbehind _ _ hfalse, (hnone _ _).mpr hfalse⟩

end TableScaffold
