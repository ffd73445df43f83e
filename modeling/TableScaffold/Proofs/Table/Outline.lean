import TableScaffold.Proofs.Table.Listing

set_option autoImplicit false

/-!
# Tables without the constraints of their columns

The name and the type of a column are read before its constraints, and they end where the
keyword of a constraint begins (`IsType.exists_front`).  So two entries that begin alike and
go on with constraints, whatever these are, are the same column but for its constraints
(`IsItem.outline_eq`).  Column lists and tables are read entry by entry, so if such entries
stand in two of them and all else is the same, they have the same outline
(`Table.outline_eq_of_ofLexemes`).
-/

namespace TableScaffold

open Sql (Lexeme Placed Token textOf)
open Written (parenDepth solid solidTokens solid_map_token)

/-- A column without its constraints. -/
def Column.outline (c : Column) : Column := { c with constraints := [] }

/-- A table without the constraints of its columns. -/
def Table.outline (t : Table) : Table := { t with columns := t.columns.map Column.outline }

namespace Grammar

/-! ## Types -/

theorem AreTypeWords.isAnyKeyword {ts : List Token} {words : List Text}
    (h : AreTypeWords ts words) : ∀ t ∈ ts, t.isAnyKeyword constraintKeywords = false := by
  induction h with
  | nil => exact nofun
  | cons ht _ ih => exact List.forall_mem_cons.mpr ⟨ht, ih⟩

/-- Within a group, the group is open. -/
theorem IsGroup.parenDepth_ne {us vs : List Token} (h : IsGroup (us ++ vs)) (hus : us ≠ [])
    (hvs : vs ≠ []) : Written.parenDepth 0 us ≠ some 0 := by
  obtain ⟨inner, heq, hinner⟩ := h
  obtain ⟨u, us, rfl⟩ := List.exists_cons_of_ne_nil hus
  obtain rfl : u = .leftParen := (List.cons.inj heq).1
  have htail : us ++ vs = inner ++ [.rightParen] := (List.cons.inj heq).2
  rw [← List.dropLast_append_getLast hvs, ← List.append_assoc] at htail
  obtain ⟨rfl, -⟩ := List.append_inj' htail rfl
  rw [parenDepth_append] at hinner
  obtain ⟨k, hk, -⟩ := Option.bind_eq_some_iff.mp hinner
  have hopen : Written.parenDepth 1 us = some (k + 1) := by
    have := parenDepth_add hk 1
    rwa [Nat.zero_add] at this
  intro hclosed
  rw [Written.parenDepth, hopen] at hclosed
  cases hclosed

/-- Outside of its group, a type holds no keyword of a constraint. -/
theorem IsType.not_keyword {us vs rest : List Token} {t : Token} {words : List Text}
    (h : IsType (us ++ t :: vs) words rest) (hus : parenDepth 0 us = some 0) :
    t.isAnyKeyword constraintKeywords = false := by
  generalize hall : us ++ t :: vs = all at h
  cases h with
  | words h =>
    subst hall
    exact h.isAnyKeyword t List.mem_append_cons_self
  | @group ts group ts' _ _ _ h _ hgroup h' =>
    have hfirst {more more' : List Token} (heq : group ++ more = t :: more') :
        t.isAnyKeyword constraintKeywords = false := by
      obtain ⟨inner, rfl, -⟩ := hgroup
      obtain ⟨rfl, -⟩ := List.cons.inj heq
      rfl
    rw [List.append_assoc] at hall
    -- the token stands among the words in front of the group, in it, or behind it
    rcases List.append_eq_append_iff.mp hall with ⟨as, rfl, has⟩ | ⟨as, rfl, has⟩
    · cases as with
      | nil => exact hfirst has.symm
      | cons a as =>
        obtain ⟨rfl, -⟩ := List.cons.inj has
        exact h.isAnyKeyword t List.mem_append_cons_self
    · rw [parenDepth_append_of_eq h.closed.balanced] at hus
      rcases List.append_eq_append_iff.mp has with ⟨bs, rfl, hbs⟩ | ⟨bs, rfl, hbs⟩
      · exact h'.isAnyKeyword t (by rw [hbs]; exact List.mem_append_cons_self)
      · cases bs with
        | nil =>
          rw [List.nil_append] at hbs
          exact h'.isAnyKeyword t (hbs ▸ List.mem_cons_self)
        | cons b bs =>
          obtain ⟨rfl, -⟩ := List.cons.inj hbs
          cases as with
          | nil => exact hfirst (List.append_nil (t :: bs))
          | cons a as =>
            exact absurd hus (hgroup.parenDepth_ne (List.cons_ne_nil a as) (List.cons_ne_nil t bs))

/-- Tokens that are empty or begin with the keyword of a constraint. -/
def BeginsConstraint (ts : List Token) : Prop :=
  Ahead (fun t => t.isAnyKeyword constraintKeywords = true) ts

/-- A type ends where the keyword of a constraint stands outside of parentheses. -/
theorem IsType.exists_front {ts rest behind front part : List Token} {words : List Text}
    (h : IsType ts words rest) (heq : ts ++ behind = front ++ part) (hfront : Closed front)
    (hpart : BeginsConstraint part) : ∃ more, front = ts ++ more ∧ behind = more ++ part := by
  rcases List.append_eq_append_iff.mp heq with ⟨more, hmore, hbehind⟩ | ⟨more, rfl, hmore⟩
  · exact ⟨more, hmore, hbehind⟩
  · cases more with
    | nil => exact ⟨[], by simp, hmore.symm⟩
    | cons t more =>
      have hkeyword : t.isAnyKeyword constraintKeywords = true := hpart t (by rw [hmore]; rfl)
      rw [h.not_keyword hfront.balanced] at hkeyword
      cases hkeyword

/-- A token, wherever it stands. -/
def anywhere (t : Token) : Placed := ⟨t, Location.start, Location.start⟩

@[simp] theorem map_anywhere (ts : List Token) :
    (ts.map anywhere).map Placed.token = ts := by
  simp [anywhere, Function.comp_def]

/-- Tokens begin with no two types. -/
theorem IsType.unique {ts ts' rest rest' : List Token} {words words' : List Text}
    (h : IsType ts words rest) (h' : IsType ts' words' rest') (heq : ts ++ rest = ts' ++ rest') :
    words = words' ∧ rest = rest' := by
  have hread {us behind : List Token} {ws : List Text} (h : IsType us ws behind) :
      columnType [] ((us ++ behind).map anywhere) = .ok (ws, behind.map anywhere) := by
    rw [List.map_append]
    refine columnType_complete [] ?_
    rwa [map_anywhere, map_anywhere]
  have hboth := hread h'
  rw [← heq, hread h] at hboth
  obtain ⟨hwords, hrest⟩ := Prod.mk.inj (Except.ok.inj hboth)
  have htokens := congrArg (List.map Placed.token) hrest
  rw [map_anywhere, map_anywhere] at htokens
  exact ⟨hwords, htokens⟩

/-! ## Entries -/

section Entries

variable {xs xs' : List Lexeme} {front part part' : List Token}

/-- Columns that begin alike and go on with constraints are the same but for these. -/
theorem IsColumn.outline_eq {c c' : Column} {rest rest' : List Token} (h : IsColumn xs c rest)
    (h' : IsColumn xs' c' rest') (hxs : solidTokens xs = front ++ part)
    (hxs' : solidTokens xs' = front ++ part') (hne : front ≠ []) (hfront : Closed front)
    (hpart : BeginsConstraint part) (hpart' : BeginsConstraint part') :
    c.outline = c'.outline := by
  obtain ⟨w, front, rfl⟩ := List.exists_cons_of_ne_nil hne
  cases h with
  | @intro name type clauses value quoted words _ _ hname htype =>
    cases h' with
    | @intro name' type' clauses' value' quoted' words' _ _ hname' htype' =>
      rw [solidTokens_append, solidTokens_append, hname, List.append_assoc] at hxs
      rw [solidTokens_append, solidTokens_append, hname', List.append_assoc] at hxs'
      obtain ⟨rfl, hmore⟩ := List.cons.inj hxs
      obtain ⟨hword, hmore'⟩ := List.cons.inj hxs'
      obtain ⟨rfl, rfl⟩ := Token.word.inj hword
      have hfront := hfront.of_cons (isPlain_of_isWord rfl)
      obtain ⟨more, hsplit, hbehind⟩ := htype.exists_front hmore hfront hpart
      obtain ⟨more', hsplit', hbehind'⟩ := htype'.exists_front hmore' hfront hpart'
      rw [hbehind, List.append_assoc] at htype
      rw [hbehind', List.append_assoc] at htype'
      -- both types stand in front of an end as well, and there they are the same
      have honward (us vs : List Token) : Onward (us ++ vs) (us ++ [.rightParen]) :=
        (onward_of_isEnd isEnd_rightParen vs []).append us
      have hwords : words = words' := by
        apply And.left
        apply (htype.onward (honward more _)).unique (htype'.onward (honward more' _))
        rw [← List.append_assoc, ← hsplit, ← List.append_assoc, ← hsplit']
      rw [hwords]
      rfl

/-- So are entries. -/
theorem IsItem.outline_eq {c c' : Option Column} (h : IsItem xs c) (h' : IsItem xs' c')
    (hxs : solidTokens xs = front ++ part) (hxs' : solidTokens xs' = front ++ part')
    (hne : front ≠ []) (hfront : Closed front) (hpart : BeginsConstraint part)
    (hpart' : BeginsConstraint part') : c.map Column.outline = c'.map Column.outline := by
  have hstarts {ys : List Lexeme} {qs : List Token} (hys : solidTokens ys = front ++ qs) :
      startsTableConstraint (solidTokens ys) = startsTableConstraint front := by
    rw [hys, startsTableConstraint, List.head?_append_of_ne_nil _ hne]
    rfl
  have hsame := (hstarts hxs).trans (hstarts hxs').symm
  cases h with
  | skipped hskipped =>
    cases h' with
    | skipped => rfl
    | column hcolumn =>
      rw [hskipped, hcolumn] at hsame
      cases hsame
  | column hcolumn h =>
    cases h' with
    | skipped hskipped =>
      rw [hskipped, hcolumn] at hsame
      cases hsame
    | column _ h' => exact congrArg some (h.outline_eq h' hxs hxs' hne hfront hpart hpart')

end Entries

/-- What stands behind the type of a column: nothing, or closed tokens that begin with the
keyword of a constraint. -/
structure IsConstraintPart (ts : List Token) : Prop where
  closed : Closed ts
  begins : BeginsConstraint ts

theorem IsConstraintPart.nil : IsConstraintPart [] := ⟨.nil, ahead_nil⟩

instance (ts : List Token) : Decidable (BeginsConstraint ts) :=
  inferInstanceAs (Decidable (∀ t ∈ ts.head?, _))

instance (ts : List Token) : Decidable (IsConstraintPart ts) :=
  decidable_of_iff (Closed ts ∧ BeginsConstraint ts) ⟨fun h => ⟨h.1, h.2⟩, fun h => ⟨h.1, h.2⟩⟩

/-- Entries that begin alike and go on with constraints. -/
inductive SameFront : List Token → List Token → Prop where
  | intro {front part part' : List Token} : front ≠ [] → Closed front → IsConstraintPart part →
    IsConstraintPart part' → SameFront (front ++ part) (front ++ part')

namespace SameFront

variable {p p' : List Token}

theorem refl (hp : Closed p) (hne : p ≠ []) : SameFront p p := by
  have h := SameFront.intro hne hp .nil .nil
  rwa [List.append_nil] at h

theorem symm (h : SameFront p p') : SameFront p' p := by
  cases h with
  | intro hne hfront hpart hpart' => exact .intro hne hfront hpart' hpart

theorem closed (h : SameFront p p') : Closed p := by
  cases h with
  | intro _ hfront hpart => exact hfront.append hpart.closed

theorem ne_nil (h : SameFront p p') : p ≠ [] := by
  cases h with
  | intro hne => exact List.append_ne_nil_of_left_ne_nil hne _

theorem outline_eq {ys ys' : List Lexeme} {c c' : Option Column} (h : SameFront p p')
    (hys : solidTokens ys = p) (hys' : solidTokens ys' = p') (hc : IsItem ys c)
    (hc' : IsItem ys' c') : c.map Column.outline = c'.map Column.outline := by
  cases h with
  | intro hne hfront hpart hpart' =>
    exact hc.outline_eq hc' hys hys' hne hfront hpart.begins hpart'.begins

end SameFront

/-! ## Column lists -/

/-- Lexemes that are read as a column list with the given columns. -/
def AreEntries (xs : List Lexeme) (cs : List Column) : Prop :=
  ∃ source l rest, Stands source l xs ∧ entries source (solid l xs) = .ok (cs, rest)

namespace AreEntries

variable {xs xs' : List Lexeme} {cs cs' : List Column}

/-- A column list begins with its end or with an entry. -/
theorem cases_tokens (h : AreEntries xs cs) :
    (∃ behind, solidTokens xs = .rightParen :: behind)
      ∨ ∃ p u behind, solidTokens xs = p ++ u :: behind ∧ Closed p ∧ p ≠ [] ∧ IsEnd u := by
  obtain ⟨source, l, rest, hstands, hread⟩ := h
  obtain ⟨parts, hne, hclosed, hparts, htokens⟩ := entries_closed hstands hread
  obtain ⟨p, parts, rfl⟩ := List.exists_cons_of_ne_nil hne
  cases parts with
  | nil =>
    cases p with
    | nil => exact .inl ⟨_, htokens⟩
    | cons t p =>
      exact .inr ⟨t :: p, _, _, htokens, hclosed _ List.mem_cons_self, List.cons_ne_nil t p,
        isEnd_rightParen⟩
  | cons q parts =>
    rw [separated, List.append_assoc, List.cons_append] at htokens
    exact .inr ⟨p, _, _, htokens, hclosed p List.mem_cons_self, hparts p List.mem_cons_self,
      isEnd_comma⟩

theorem eq_nil (h : AreEntries xs cs) {behind : List Token}
    (hxs : solidTokens xs = .rightParen :: behind) : cs = [] := by
  obtain ⟨source, l, rest, -, hread⟩ := h
  rw [← solid_map_token l] at hxs
  obtain ⟨t, r, hsolid, ht, -⟩ := List.map_eq_cons_iff.mp hxs
  rw [hsolid, entries, if_pos ht] at hread
  cases hread
  rfl

/-- The first entry of a column list and what is behind it. -/
theorem uncons (h : AreEntries xs cs) {p behind : List Token} {u : Token}
    (hxs : solidTokens xs = p ++ u :: behind) (hp : Closed p) (hne : p ≠ []) (hu : IsEnd u) :
    ∃ ys c, solidTokens ys = p ∧ IsItem ys c
      ∧ (u = .comma ∧ (∃ zs cs', solidTokens zs = behind ∧ AreEntries zs cs' ∧ cs = c.toList ++ cs')
        ∨ u = .rightParen ∧ cs = c.toList) := by
  obtain ⟨source, l, rest, hstands, hread⟩ := h
  obtain ⟨ys, more, rfl, hys, hmore⟩ := exists_split_tokens p hxs
  rw [← solid_map_token (l.after (textOf ys))] at hmore
  obtain ⟨v, vs, hsolid, rfl, hvs⟩ := List.map_eq_cons_iff.mp hmore
  have hpart : IsPart ys := ⟨by rwa [hys], by rwa [hys]⟩
  obtain ⟨c, hitem, hrest⟩ := (entries_part cs rest hstands hpart hsolid hu).mp hread
  refine ⟨ys, c, hys, hitem, ?_⟩
  rcases hrest with ⟨hcomma, cs', hcs', hcs⟩ | ⟨hclosing, hcs, -⟩
  · left
    obtain ⟨ws, zs, rfl, -, hzs⟩ := exists_split [v] hsolid
    refine ⟨hcomma, zs, cs', ?_, ⟨source, _, rest, hstands.right.right, ?_⟩, hcs⟩
    · rw [← hvs, ← hzs, solid_map_token]
    · rw [hzs]
      exact hcs'
  · exact .inr ⟨hclosing, hcs⟩

end AreEntries

/-- Column lists with the given tokens have the same columns but for their constraints. -/
structure SameOutline (ts ts' : List Token) : Prop where
  columns {xs xs' : List Lexeme} {cs cs' : List Column} : solidTokens xs = ts →
    solidTokens xs' = ts' → AreEntries xs cs → AreEntries xs' cs' →
    cs.map Column.outline = cs'.map Column.outline

namespace SameOutline

variable {p p' behind behind' : List Token} {u : Token}

/-- One entry in front of column lists. -/
theorem cons (hp : SameFront p p') (hu : IsEnd u) (hbehind : SameOutline behind behind') :
    SameOutline (p ++ u :: behind) (p' ++ u :: behind') := by
  constructor
  intro xs xs' cs cs' hxs hxs' h h'
  obtain ⟨ys, c, hys, hitem, hrest⟩ := h.uncons hxs hp.closed hp.ne_nil hu
  obtain ⟨ys', c', hys', hitem', hrest'⟩ := h'.uncons hxs' hp.symm.closed hp.symm.ne_nil hu
  have hfirst : c.toList.map Column.outline = c'.toList.map Column.outline := by
    rw [← Option.toList_map, ← Option.toList_map, hp.outline_eq hys hys' hitem hitem']
  rcases hrest with ⟨rfl, zs, ds, hzs, hds, rfl⟩ | ⟨rfl, rfl⟩
  · rcases hrest' with ⟨-, zs', ds', hzs', hds', rfl⟩ | ⟨hclosing, -⟩
    · rw [List.map_append, List.map_append, hfirst, hbehind.columns hzs hzs' hds hds']
    · cases hclosing
  · rcases hrest' with ⟨hcomma, -⟩ | ⟨-, rfl⟩
    · cases hcomma
    · exact hfirst

/-- A column list has one outline. -/
theorem refl (ts : List Token) : SameOutline ts ts := by
  induction hn : ts.length using Nat.strong_induction_on generalizing ts with
  | _ n ih =>
    constructor
    intro xs xs' cs cs' hxs hxs' h h'
    rcases h.cases_tokens with ⟨behind, hclosing⟩ | ⟨p, u, behind, hsplit, hp, hne, hu⟩
    · rw [h.eq_nil hclosing, h'.eq_nil (hxs'.trans (hxs.symm.trans hclosing))]
    · obtain rfl := hxs.symm.trans hsplit
      have hlength : behind.length < n := by
        rw [← hn, List.length_append, List.length_cons]
        omega
      have hcons := cons (.refl hp hne) hu (ih behind.length hlength behind rfl)
      exact hcons.columns hxs hxs' h h'

/-- Entries in front of column lists, with a comma behind each. -/
theorem append {parts : List (List Token)} (hparts : ∀ q ∈ parts, Closed q ∧ q ≠ [])
    (h : SameOutline behind behind') : SameOutline (parts.flatMap (· ++ [.comma]) ++ behind)
      (parts.flatMap (· ++ [.comma]) ++ behind') := by
  induction parts with
  | nil => exact h
  | cons q parts ih =>
    rw [List.forall_mem_cons] at hparts
    rw [List.flatMap_cons, List.append_assoc, List.append_assoc, List.append_assoc,
      List.append_assoc]
    exact cons (.refl hparts.1.1 hparts.1.2) isEnd_comma (ih hparts.2)

end SameOutline

/-! ## Tables -/

/-- Tokens at the end of which the first table header stands. -/
structure EndsInHeader (ts : List Token) : Prop where
  header : ∃ before keywords, ts = before ++ keywords ∧ IsHeader keywords
  first : ∀ before keywords behind, ts = before ++ keywords ++ behind → IsHeader keywords →
    behind = []

theorem IsHeader.length_keywords {keywords : List Token} (h : IsHeader keywords) :
    keywords.length = headerKeywords.length :=
  (List.Forall₂.length_eq h).symm

theorem IsHeader.endsInHeader {ts : List Token} (h : IsHeader ts) : EndsInHeader ts where
  header := ⟨[], ts, rfl, h⟩
  first := by
    intro before keywords behind heq hkeywords
    have hlength := congrArg List.length heq
    rw [List.length_append, List.length_append, h.length_keywords,
      hkeywords.length_keywords] at hlength
    apply List.eq_nil_of_length_eq_zero
    omega

theorem EndsInHeader.of_cons {t : Token} {ts : List Token} (h : EndsInHeader (t :: ts))
    (hne : ¬ IsHeader (t :: ts)) : EndsInHeader ts where
  header := by
    obtain ⟨before, keywords, hsplit, hkeywords⟩ := h.header
    cases before with
    | nil =>
      rw [List.nil_append] at hsplit
      exact absurd (hsplit ▸ hkeywords) hne
    | cons b before =>
      obtain ⟨-, htail⟩ := List.cons.inj hsplit
      exact ⟨before, keywords, htail, hkeywords⟩
  first := by
    intro before keywords behind heq hkeywords
    exact h.first (t :: before) keywords behind (congrArg (t :: ·) heq) hkeywords

/-- What is behind the first header. -/
theorem afterHeader?_of_map {ts : List Placed} {header more : List Token}
    (hheader : EndsInHeader header) (hts : ts.map Placed.token = header ++ more) :
    ∃ body, afterHeader? ts = some body ∧ body.map Placed.token = more := by
  induction ts generalizing header with
  | nil =>
    obtain ⟨before, keywords, rfl, hkeywords⟩ := hheader.header
    rw [List.map_nil, List.append_assoc] at hts
    obtain ⟨-, hnil⟩ := List.append_eq_nil_iff.mp hts.symm
    obtain ⟨rfl, -⟩ := List.append_eq_nil_iff.mp hnil
    cases hkeywords
  | cons t r ih =>
    by_cases hfirst : IsHeader header
    · obtain ⟨used, body, hused, rfl, rfl⟩ := List.map_eq_append_iff.mp hts
      exact ⟨body, by rw [hused, afterHeader?_append hfirst], rfl⟩
    · obtain ⟨u, header, rfl⟩ : ∃ u header', header = u :: header' := by
        obtain ⟨before, keywords, rfl, hkeywords⟩ := hheader.header
        cases before with
        | nil => exact absurd hkeywords hfirst
        | cons b before => exact ⟨b, before ++ keywords, rfl⟩
      obtain ⟨body, hbody, hmore⟩ := ih (hheader.of_cons hfirst) (List.cons.inj hts).2
      refine ⟨body, ?_, hmore⟩
      rw [afterHeader?]
      cases hread : afterKeywords? headerKeywords (t :: r) with
      | none => exact hbody
      | some rest =>
        -- a header that begins here would end before the first one does
        obtain ⟨used, hused, hisHeader⟩ := afterKeywords?_eq_some.mp hread
        replace hisHeader : IsHeader (used.map Placed.token) := hisHeader
        rw [hused, List.map_append] at hts
        have hlength : (used.map Placed.token).length ≤ (u :: header).length := by
          obtain ⟨before, keywords, hsplit, hkeywords⟩ := hheader.header
          rw [hisHeader.length_keywords, hsplit, List.length_append, hkeywords.length_keywords]
          exact Nat.le_add_left _ _
        have hprefix : used.map Placed.token <+: (u :: header) ++ more := ⟨_, hts⟩
        obtain ⟨behind, hbehind⟩ :=
          List.prefix_of_prefix_length_le hprefix (List.prefix_append _ _) hlength
        obtain rfl := hheader.first [] _ behind hbehind.symm hisHeader
        rw [List.append_nil] at hbehind
        exact absurd (hbehind ▸ hisHeader) hfirst

/-- A table is read from what stands behind the first header: its name, and a column list. -/
theorem exists_list {xs : List Lexeme} {header words list : List Token} {name : Text}
    (hheader : EndsInHeader header) (hname : IsName words name)
    (hxs : solidTokens xs = header ++ (words ++ .leftParen :: list)) :
    ∃ ys l, solidTokens ys = list ∧ Stands (textOf xs) l ys ∧ ∀ t, Table.ofLexemes xs = .ok t
      ↔ t.name = name ∧ ∃ rest, entries (textOf xs) (solid l ys) = .ok (t.columns, rest) := by
  rw [← solid_map_token Location.start] at hxs
  obtain ⟨body, hbody, hbodyTokens⟩ := afterHeader?_of_map hheader hxs
  obtain ⟨ws, us, rfl, rfl, hus⟩ := List.map_eq_append_iff.mp hbodyTokens
  obtain ⟨u, r, rfl, hu, rfl⟩ := List.map_eq_cons_iff.mp hus
  obtain ⟨before, used, hsolid, -⟩ := exists_header hbody
  rw [← List.append_assoc, List.append_cons] at hsolid
  obtain ⟨front, ys, heq, -, hys⟩ := exists_split _ hsolid
  have hstands := stands_textOf xs
  rw [heq] at hstands
  refine ⟨ys, Location.start.after (textOf front), ?_, ?_, fun t => ?_⟩
  · rw [← hys, solid_map_token]
  · rw [heq]
    exact hstands.right
  have hread := qualifiedName_complete .table (u :: r) hname (by simp [hu])
  rw [Table.ofLexemes, Table.ofTokens, hbody, hys]
  simp only [table, hread, hu, if_true]
  cases entries (textOf xs) r with
  | error e =>
    constructor
    · intro h
      cases h
    · rintro ⟨-, rest, h⟩
      cases h
  | ok p =>
    constructor
    · intro h
      cases h
      exact ⟨rfl, p.2, rfl⟩
    · rintro ⟨rfl, rest, h⟩
      cases h
      rfl

/-- A table that is read has the name that stands behind the header, and the columns of the
list behind the name. -/
theorem exists_areEntries {xs : List Lexeme} {t : Table} (h : Table.ofLexemes xs = .ok t)
    {header words list : List Token} {name : Text} (hheader : EndsInHeader header)
    (hname : IsName words name)
    (hxs : solidTokens xs = header ++ (words ++ .leftParen :: list)) :
    t.name = name ∧ ∃ ys, solidTokens ys = list ∧ AreEntries ys t.columns := by
  obtain ⟨ys, l, hys, hstands, hread⟩ := exists_list hheader hname hxs
  obtain ⟨hsame, rest, hentries⟩ := (hread t).mp h
  exact ⟨hsame, ys, hys, textOf xs, l, rest, hstands, hentries⟩

/-- Tokens up to the beginning of an entry of a table's column list: the first header, the
table's name, the opening parenthesis, and the entries in front with a comma behind each. -/
inductive LeadsToEntry : List Token → Prop where
  | intro {header words : List Token} {name : Text} {parts : List (List Token)} :
    EndsInHeader header → IsName words name → (∀ q ∈ parts, Closed q ∧ q ≠ []) →
    LeadsToEntry (header ++ words ++ .leftParen :: parts.flatMap (· ++ [.comma]))

end Grammar

open Grammar

/-- Where an entry of a table is replaced by one that begins alike and goes on with other
constraints, the table is the same but for the constraints. -/
theorem Table.outline_eq_of_ofLexemes {xs xs' : List Lexeme} {t t' : Table}
    (h : Table.ofLexemes xs = .ok t) (h' : Table.ofLexemes xs' = .ok t')
    {lead p p' post : List Token} {u : Token} (hlead : LeadsToEntry lead) (hp : SameFront p p')
    (hu : IsEnd u) (hxs : solidTokens xs = lead ++ (p ++ u :: post))
    (hxs' : solidTokens xs' = lead ++ (p' ++ u :: post)) : t.outline = t'.outline := by
  cases hlead with
  | intro hheader hname hparts =>
    rw [List.append_assoc, List.append_assoc, List.cons_append] at hxs hxs'
    obtain ⟨rfl, ys, hys, hentries⟩ := exists_areEntries h hheader hname hxs
    obtain ⟨heq, ys', hys', hentries'⟩ := exists_areEntries h' hheader hname hxs'
    have hlists := (SameOutline.cons hp hu (.refl post)).append hparts
    rw [outline, outline, hlists.columns hys hys' hentries hentries', heq]

/-! ## An entry of a table -/

namespace Sample

/-- Words without quotes. -/
def bare (ws : List String) : List Token := ws.map fun w => .word w.toList false

/-- The tokens of a table up to its second entry. -/
def lead : List Token :=
  bare ["CREATE", "TABLE", "IF", "NOT", "EXISTS"] ++ bare ["t"]
    ++ .leftParen :: [bare ["id", "uuid"]].flatMap (· ++ [.comma])

theorem isHeader_bare : IsHeader (bare ["CREATE", "TABLE", "IF", "NOT", "EXISTS"]) := by
  unfold IsHeader headerKeywords bare
  simp only [List.forall₂_map_left_iff, List.forall₂_map_right_iff]
  exact List.forall₂_same.mpr (by decide)

theorem leadsToEntry_lead : LeadsToEntry lead := by
  have hparts : ∀ q ∈ [bare ["id", "uuid"]], Closed q ∧ q ≠ [] :=
    List.forall_mem_singleton.mpr ⟨by decide, by decide⟩
  exact .intro isHeader_bare.endsInHeader (.word "t".toList false) hparts

end Sample

end TableScaffold
