import Mathlib.Data.List.Forall2
import TableScaffold.Proofs.Table.Clauses

set_option autoImplicit false

/-!
# What the readers of column lists read

An entry is read up to the comma or closing parenthesis behind it, whichever that is
(`entry_sound`, `entry_complete`), so a column list is read entry by entry
(`entries_list`).
-/

namespace TableScaffold.Grammar

open Sql (Lexeme Placed Token textOf)
open Written (solid solidTokens solid_append solid_cons solid_map_token)

variable {source : Text} {rest : List Placed}

/-! ## Columns -/

theorem column_sound {ts : List Placed} {c : Column} (h : column source ts = .ok (c, rest))
    (hne : rest ≠ []) : Ahead IsEnd (rest.map Placed.token) ∧ ∃ used, ts = used ++ rest
      ∧ ∀ {l xs}, Stands source l xs → solid l xs = used →
        IsColumn xs c (rest.map Placed.token) := by
  cases ts with
  | nil => cases h
  | cons t r =>
    rw [column] at h
    split at h
    · next name quoted ht =>
      split at h
      · cases h
      · next words behind htype =>
        split at h
        · cases h
        · next cs rest' hcs =>
          cases h
          obtain ⟨us, hr, hus⟩ := columnType_sound htype
          obtain ⟨hrest, vs, rfl, hvs⟩ := constraints_sound hcs hne
          refine ⟨hrest, t :: us ++ vs, by rw [hr]; simp, ?_⟩
          intro l xs hstands hsolid
          obtain ⟨front, clauses, rfl, hfront, hclauses⟩ := exists_split _ hsolid
          obtain ⟨first, type, rfl, hfirst, htypeSolid⟩ := exists_split [t] hfront
          have hname : solidTokens first = [.word name quoted] := by
            rw [← solid_map_token l, hfirst, List.map_singleton, ht]
          refine .intro hname ?_ (hvs hstands.right hclauses)
          rw [← solid_map_token (l.after (textOf first)) type, htypeSolid,
            ← solid_map_token (l.after (textOf (first ++ type))) clauses, hclauses,
            ← List.map_append]
          exact hus
    · cases h

/-- A column is read as what it is, and its clauses go on behind it. -/
theorem column_complete {l : Location} {xs : List Lexeme} {c : Column} (rest : List Placed)
    (hstands : Stands source l xs) (h : IsColumn xs c (rest.map Placed.token)) :
    column source (solid l xs ++ rest) = (constraints source rest).map fun p =>
      ({ c with constraints := c.constraints ++ p.1 }, p.2) := by
  cases h with
  | @intro name type clauses value quoted words cs _ hname htype hclauses =>
    rw [← solid_map_token l] at hname
    obtain ⟨t, hfirst, ht⟩ := List.map_eq_singleton_iff.mp hname
    have hread := constraints_clauses rest hstands.right hclauses
    rw [← solid_map_token (l.after (textOf name)) type,
      ← solid_map_token (l.after (textOf (name ++ type))) clauses, ← List.map_append] at htype
    have htypeRead := columnType_complete value htype
    rw [solid_append, solid_append, hfirst, List.append_assoc, List.append_assoc, List.cons_append,
      List.nil_append, column, ht]
    simp only [htypeRead, hread]
    cases constraints source rest <;> rfl

/-- In front of an end, nothing goes on behind a column. -/
theorem column_of_isEnd {l : Location} {xs : List Lexeme} {c : Column} {rest' : List Token}
    {u : Placed} (rest : List Placed) (hu : IsEnd u.token) (hstands : Stands source l xs) (h : IsColumn xs c rest') :
    column source (solid l xs ++ u :: rest) = .ok (c, u :: rest) := by
  have hread := column_complete (u :: rest) hstands (h.onward (onward_of_isEnd hu _ _))
  rw [hread, constraints_of_isEnd hu]
  simp [Except.map]

/-! ## Table constraints -/

theorem skipEntry_sound {ts : List Placed} (h : skipEntry ts = .ok rest) :
    Ahead IsEnd (rest.map Placed.token)
      ∧ ∃ used, ts = used ++ rest ∧ Closed (used.map Placed.token) := by
  fun_induction skipEntry ts with
  | case1 =>
    cases h
    exact ⟨ahead_nil, [], rfl, .nil⟩
  | case2 t r hend =>
    cases h
    exact ⟨by simpa [IsEnd] using hend, [], rfl, .nil⟩
  | case3 => cases h
  | case4 t r hend hleft behind hskip ih =>
    obtain ⟨hrest, used, rfl, hused⟩ := ih h
    obtain ⟨group, hgroup, hisGroup⟩ := skipGroup_eq_ok.mp hskip
    refine ⟨hrest, group ++ used, by rw [hgroup, List.append_assoc], ?_⟩
    rw [List.map_append]
    exact (Closed.group hisGroup).append hused
  | case5 t r hend hleft ih =>
    obtain ⟨hrest, used, rfl, hused⟩ := ih h
    refine ⟨hrest, t :: used, rfl, ?_⟩
    rw [Bool.or_eq_true, decide_eq_true_eq, decide_eq_true_eq, not_or] at hend
    exact .cons ⟨hleft, hend.2, hend.1⟩ hused

theorem skipEntry_complete {ts : List Placed} {u : Placed} (rest : List Placed) (hu : IsEnd u.token)
    (h : Closed (ts.map Placed.token)) : skipEntry (ts ++ u :: rest) = .ok (u :: rest) := by
  induction hn : ts.length using Nat.strong_induction_on generalizing ts with
  | _ n ih =>
    subst hn
    cases ts with
    | nil =>
      rw [List.nil_append, skipEntry, if_pos (by rcases hu with h | h <;> simp [h])]
    | cons t r =>
      have hend : ¬ IsEnd t.token := h.not_isEnd_of_cons
      rw [List.cons_append, skipEntry, if_neg (by simpa [IsEnd] using hend)]
      rw [List.map_cons] at h
      by_cases ht : t.token = .leftParen
      · -- the group that begins here is skipped as a whole
        have hopen := h.balanced
        rw [ht] at hopen
        obtain ⟨inner, more, hr, hinner, hmore⟩ := exists_close (d := 0) hopen
        have hisGroup : IsGroup (.leftParen :: inner ++ [.rightParen]) := ⟨inner, rfl, hinner⟩
        rw [hr, ht] at h
        obtain ⟨is, vs, rfl, rfl, hvs⟩ := List.map_eq_append_iff.mp hr
        obtain ⟨v, ms, rfl, hv, rfl⟩ := List.map_eq_cons_iff.mp hvs
        have hskip : skipGroup (t :: (is ++ v :: ms ++ u :: rest)) = .ok (ms ++ u :: rest) := by
          refine skipGroup_eq_ok.mpr ⟨t :: is ++ [v], by simp, ?_⟩
          rw [List.map_append, List.map_cons, List.map_singleton, ht, hv]
          exact hisGroup
        have hclosed : Closed (ms.map Placed.token) := by
          refine Closed.of_append ?_ hisGroup.parenDepth
          simpa using h
        rw [if_pos ht]
        split
        · next heq =>
          rw [hskip] at heq
          cases heq
        · next heq =>
          rw [hskip] at heq
          cases heq
          exact ih ms.length (by simp; omega) hclosed rfl
      · have hplain : IsPlain t.token := ⟨ht, fun h => hend (.inr h), fun h => hend (.inl h)⟩
        rw [if_neg ht]
        exact ih r.length (by simp) (h.of_cons hplain) rfl

/-! ## Entries -/

/-- An entry that ends before the end of all tokens is an item in front of an end. -/
theorem entry_sound {ts : List Placed} {c : Option Column}
    (h : entry source ts = .ok (c, rest)) (hne : rest ≠ []) :
    Ahead IsEnd (rest.map Placed.token) ∧ ∃ used, ts = used ++ rest
      ∧ ∀ {l xs}, Stands source l xs → solid l xs = used → IsItem xs c := by
  cases ts with
  | nil => cases h
  | cons t r =>
    rw [entry] at h
    split at h
    · next hkeyword =>
      obtain ⟨behind, hskip, hpair⟩ := map_eq_ok.mp h
      cases hpair
      obtain ⟨hrest, used, hused, hclosed⟩ := skipEntry_sound hskip
      refine ⟨hrest, used, hused, fun {l xs} _ hsolid => ?_⟩
      rw [← hsolid, solid_map_token] at hclosed
      refine .skipped ?_ hclosed
      rw [← solid_map_token l, hsolid]
      cases used with
      | nil =>
        -- the keyword does not end the entry
        rw [List.nil_append] at hused
        subst hused
        obtain ⟨value, hvalue⟩ := Written.isAnyKeyword_eq_true hkeyword
        have hend := hrest t.token rfl
        rw [hvalue] at hend
        rcases hend with heq | heq <;> cases heq
      | cons u used =>
        obtain ⟨rfl, -⟩ := List.cons.inj hused
        exact hkeyword
    · next hkeyword =>
      obtain ⟨⟨c', behind⟩, hcolumn, hpair⟩ := map_eq_ok.mp h
      cases hpair
      obtain ⟨hrest, used, hused, hisColumn⟩ := column_sound hcolumn hne
      refine ⟨hrest, used, hused, fun {l xs} hstands hsolid => ?_⟩
      obtain ⟨u, us, rfl⟩ := List.exists_cons_of_ne_nil hne
      have hu : IsEnd u.token := hrest u.token rfl
      refine .column ?_ ((hisColumn hstands hsolid).onward (onward_of_isEnd isEnd_rightParen _ []))
      rw [← solid_map_token l, hsolid]
      have hlength := column_length hcolumn
      cases used with
      | nil =>
        rw [hused] at hlength
        exact absurd hlength (lt_irrefl _)
      | cons v used =>
        obtain ⟨rfl, -⟩ := List.cons.inj hused
        exact Bool.eq_false_iff.mpr hkeyword

theorem IsColumn.exists_cons {xs : List Lexeme} {c : Column} {rest : List Token}
    (h : IsColumn xs c rest) : ∃ t ts, solidTokens xs = t :: ts := by
  cases h with
  | intro hname _ _ =>
    rw [List.append_assoc, solidTokens_append, hname]
    exact ⟨_, _, rfl⟩

/-- An item is read as what it is, wherever it stands. -/
theorem entry_complete {l : Location} {xs : List Lexeme} {c : Option Column} {u : Placed}
    (rest : List Placed) (hu : IsEnd u.token) (hstands : Stands source l xs) (h : IsItem xs c) :
    entry source (solid l xs ++ u :: rest) = .ok (c, u :: rest) := by
  cases h with
  | skipped hstarts hclosed =>
    rw [← solid_map_token l] at hstarts hclosed
    have hskip := skipEntry_complete rest hu hclosed
    generalize solid l xs = ts at hstarts hclosed hskip
    cases ts with
    | nil => cases hstarts
    | cons t r =>
      rw [List.map_cons, startsTableConstraint_cons] at hstarts
      rw [List.cons_append, entry, if_pos hstarts]
      rw [List.cons_append] at hskip
      rw [hskip]
      rfl
  | @column c hstarts hcolumn =>
    obtain ⟨_, _, hcons⟩ := hcolumn.exists_cons
    have hread := column_of_isEnd rest hu hstands hcolumn
    rw [← solid_map_token l] at hstarts hcons
    generalize solid l xs = ts at hstarts hcons hread
    cases ts with
    | nil => cases hcons
    | cons t r =>
      rw [List.map_cons, startsTableConstraint_cons] at hstarts
      rw [List.cons_append, entry, if_neg (Bool.eq_false_iff.mp hstarts)]
      rw [List.cons_append] at hread
      rw [hread]
      rfl

/-- Lexemes are no two columns. -/
theorem IsColumn.unique {xs : List Lexeme} {c c' : Column} {rest rest' : List Token}
    (h : IsColumn xs c rest) (h' : IsColumn xs c' rest') : c = c' := by
  have hread := column_of_isEnd (u := anyClosing) [] isEnd_rightParen (stands_textOf xs) h
  have hread' := column_of_isEnd (u := anyClosing) [] isEnd_rightParen (stands_textOf xs) h'
  exact (Prod.mk.inj (Except.ok.inj (hread.symm.trans hread'))).1

/-- Lexemes are no two items. -/
theorem IsItem.unique {xs : List Lexeme} {c c' : Option Column} (h : IsItem xs c)
    (h' : IsItem xs c') : c = c' := by
  have hread := entry_complete (u := anyClosing) [] isEnd_rightParen (stands_textOf xs) h
  have hread' := entry_complete (u := anyClosing) [] isEnd_rightParen (stands_textOf xs) h'
  exact (Prod.mk.inj (Except.ok.inj (hread.symm.trans hread'))).1

/-- What is behind a part of a column that reaches so far are clauses, if all of it is
a column. -/
theorem IsColumn.append_iff {xs ys : List Lexeme} {c c' : Column}
    (h : IsColumn xs c (solidTokens ys ++ [.rightParen])) : IsColumn (xs ++ ys) c' [.rightParen]
      ↔ ∃ cs, IsClauses ys cs [.rightParen] ∧ c' = { c with constraints := c.constraints ++ cs } := by
  constructor
  · intro h'
    have hstands := stands_textOf (xs ++ ys)
    have hall := column_of_isEnd (u := anyClosing) [] isEnd_rightParen hstands h'
    rw [← solid_map_token (Location.start.after (textOf xs))] at h
    have hfront := column_complete (solid (Location.start.after (textOf xs)) ys ++ [anyClosing])
      hstands.left (by rw [List.map_append]; exact h)
    rw [solid_append, List.append_assoc, hfront] at hall
    obtain ⟨⟨cs, rest⟩, hcs, heq⟩ := map_eq_ok.mp hall
    obtain ⟨hcolumn, rfl⟩ := Prod.mk.inj heq
    obtain ⟨-, used, hused, hclauses⟩ := constraints_sound hcs (List.cons_ne_nil _ _)
    exact ⟨cs, hclauses hstands.right (List.append_cancel_right hused), hcolumn.symm⟩
  · rintro ⟨cs, hcs, rfl⟩
    exact h.append hcs

/-- In front of an end, a closed part is read as an entry exactly if it is an item, and up
to that end. -/
theorem entry_eq_ok {l : Location} {xs ys : List Lexeme} {c : Option Column} {u : Placed}
    {rest' : List Placed} (hstands : Stands source l (xs ++ ys)) (hxs : Closed (solidTokens xs))
    (hys : solid (l.after (textOf xs)) ys = u :: rest) (hu : IsEnd u.token) (hne : rest' ≠ []) :
    entry source (solid l (xs ++ ys)) = .ok (c, rest') ↔ rest' = u :: rest ∧ IsItem xs c := by
  rw [solid_append, hys]
  constructor
  · intro h
    obtain ⟨hend, used, hused, hitem⟩ := entry_sound h hne
    obtain ⟨v, rest', rfl⟩ := List.exists_cons_of_ne_nil hne
    -- the lexemes that were read are closed, so they end where the part ends
    have hall : solid l (xs ++ ys) = used ++ v :: rest' := by
      rw [solid_append, hys, hused]
    obtain ⟨front, back, heq, hfront, -⟩ := exists_split _ hall
    rw [heq] at hstands
    have hclosed := (hitem hstands.left hfront).closed
    have htokens : solidTokens xs = used.map Placed.token := by
      have hmap := congrArg (List.map Placed.token) hused
      rw [List.map_append, List.map_append, solid_map_token] at hmap
      rw [← solid_map_token l, hfront] at hclosed
      exact hxs.append_inj hclosed hu (hend v.token rfl) hmap
    have hlength : (solid l xs).length = used.length := by
      rw [← List.length_map (f := Placed.token), solid_map_token, htokens, List.length_map]
    obtain ⟨rfl, htail⟩ := List.append_inj hused hlength
    rw [← heq] at hstands
    exact ⟨htail.symm, hitem hstands.left rfl⟩
  · rintro ⟨rfl, hitem⟩
    exact entry_complete rest hu hstands.left hitem

/-! ## Lists of entries -/

/-- Lists with a separator between them. -/
def separated {α : Type} (separator : α) : List (List α) → List α
  | [] => []
  | [as] => as
  | as :: bs :: rest => as ++ separator :: separated separator (bs :: rest)

/-- The lexeme between two entries. -/
def comma : Lexeme := ⟨.comma, [',']⟩

/-- The lexeme in front of the first entry. -/
def opening : Lexeme := ⟨.leftParen, ['(']⟩

/-- The lexeme behind the last entry. -/
def closing : Lexeme := ⟨.rightParen, [')']⟩

/-- An entry that is not empty, and closed. -/
structure IsPart (xs : List Lexeme) : Prop where
  ne_nil : solidTokens xs ≠ []
  closed : Closed (solidTokens xs)

theorem IsColumn.isPart {xs : List Lexeme} {c : Column} {rest : List Token}
    (h : IsColumn xs c rest) : IsPart xs where
  closed := h.closed
  ne_nil := by
    obtain ⟨t, ts, hcons⟩ := h.exists_cons
    rw [hcons]
    exact List.cons_ne_nil t ts

theorem IsItem.isPart {xs : List Lexeme} {c : Option Column} (h : IsItem xs c) : IsPart xs := by
  cases h with
  | skipped hstarts hclosed =>
    refine ⟨fun hnil => ?_, hclosed⟩
    rw [hnil] at hstarts
    cases hstarts
  | column _ hcolumn => exact hcolumn.isPart

theorem IsPart.append {xs ys : List Lexeme} (h : IsPart xs) (hys : Closed (solidTokens ys)) :
    IsPart (xs ++ ys) where
  ne_nil := by
    rw [solidTokens_append]
    exact List.append_ne_nil_of_left_ne_nil h.ne_nil _
  closed := by
    rw [solidTokens_append]
    exact h.closed.append hys

theorem IsPart.startsTableConstraint_append {xs : List Lexeme} (h : IsPart xs)
    (ys : List Lexeme) : startsTableConstraint (solidTokens (xs ++ ys))
      = startsTableConstraint (solidTokens xs) := by
  rw [startsTableConstraint, solidTokens_append, List.head?_append_of_ne_nil _ h.ne_nil]
  rfl

/-- The columns of some items. -/
def columnsOf (items : List (Option Column)) : List Column := items.flatMap Option.toList

theorem IsPart.solid_cons {l : Location} {xs : List Lexeme} (h : IsPart xs) :
    ∃ t r, solid l xs = t :: r ∧ t.token ≠ .rightParen := by
  obtain ⟨t, r, hsolid⟩ := List.exists_cons_of_ne_nil fun hnil => h.ne_nil (solid_eq_nil (l := l).mp hnil)
  refine ⟨t, r, hsolid, fun ht => ?_⟩
  have hclosed := h.closed
  rw [← solid_map_token l, hsolid] at hclosed
  exact hclosed.not_isEnd_of_cons (.inr ht)

/-- A column list whose first token does not close it begins with an entry, which a comma
or the end of the list follows. -/
theorem entries_cons_eq_ok {t : Placed} {r : List Placed} {cs : List Column}
    (ht : t.token ≠ .rightParen) : entries source (t :: r) = .ok (cs, rest)
      ↔ ∃ c u behind, entry source (t :: r) = .ok (c, u :: behind)
        ∧ (u.token = .comma ∧ (∃ cs', entries source behind = .ok (cs', rest) ∧ cs = c.toList ++ cs')
          ∨ u.token = .rightParen ∧ cs = c.toList ∧ rest = behind) := by
  constructor
  · intro h
    rw [entries, if_neg ht] at h
    split at h
    · cases h
    · cases h
    · next c u behind hentry =>
      refine ⟨c, u, behind, hentry, ?_⟩
      split at h
      · next hu =>
        split at h
        · cases h
        · next cs' rest' hcs =>
          cases h
          exact .inl ⟨hu, cs', hcs, rfl⟩
      · next hu =>
        cases h
        exact .inr ⟨hu, rfl, rfl⟩
      · cases h
  · rintro ⟨c, u, behind, hentry, ⟨hu, cs', hcs, rfl⟩ | ⟨hu, rfl, rfl⟩⟩
    · rw [entries, if_neg ht]
      split <;> simp_all
    · rw [entries, if_neg ht]
      split <;> simp_all

/-- A column list that begins with a part and an end behind it. -/
theorem entries_part {l : Location} {xs ys : List Lexeme} {u : Placed} {behind : List Placed}
    (cs : List Column) (rest : List Placed) (hstands : Stands source l (xs ++ ys)) (hxs : IsPart xs)
    (hys : solid (l.after (textOf xs)) ys = u :: behind) (hu : IsEnd u.token) :
    entries source (solid l (xs ++ ys)) = .ok (cs, rest) ↔ ∃ c, IsItem xs c
      ∧ (u.token = .comma ∧ (∃ cs', entries source behind = .ok (cs', rest) ∧ cs = c.toList ++ cs')
        ∨ u.token = .rightParen ∧ cs = c.toList ∧ rest = behind) := by
  have hentry {c : Option Column} {v : Placed} {more : List Placed} :=
    entry_eq_ok (c := c) hstands hxs.closed hys hu (List.cons_ne_nil v more)
  obtain ⟨t, r, hsolid, ht⟩ := hxs.solid_cons (l := l)
  have hcons : solid l (xs ++ ys) = t :: (r ++ u :: behind) := by
    rw [solid_append, hsolid, hys]
    rfl
  rw [hcons] at hentry ⊢
  rw [entries_cons_eq_ok ht]
  constructor
  · rintro ⟨c, v, more, hread, hrest⟩
    obtain ⟨heq, hitem⟩ := hentry.mp hread
    obtain ⟨rfl, rfl⟩ := List.cons.inj heq
    exact ⟨c, hitem, hrest⟩
  · rintro ⟨c, hitem, hrest⟩
    exact ⟨c, u, behind, hentry.mpr ⟨rfl, hitem⟩, hrest⟩

/-- A list of parts is read as columns exactly if each part is an item. -/
theorem entries_list {l : Location} {es : List (List Lexeme)} {tail : List Lexeme}
    {cs : List Column} (hes : es ≠ []) (hparts : ∀ e ∈ es, IsPart e)
    (hstands : Stands source l (separated comma es ++ closing :: tail)) :
    (∃ rest, entries source (solid l (separated comma es ++ closing :: tail)) = .ok (cs, rest))
      ↔ ∃ items, List.Forall₂ IsItem es items ∧ cs = columnsOf items := by
  induction es generalizing l cs with
  | nil => exact absurd rfl hes
  | cons e es ih =>
    rw [List.forall_mem_cons] at hparts
    cases es with
    | nil =>
      rw [separated] at hstands ⊢
      have hlast (rest : List Placed) := entries_part cs rest hstands hparts.1
        (solid_cons (by simp [closing]) _ _) isEnd_rightParen
      simp only [hlast]
      constructor
      · rintro ⟨rest, c, hitem, ⟨hcomma, -⟩ | ⟨-, rfl, -⟩⟩
        · cases hcomma
        · exact ⟨[c], .cons hitem .nil, (List.append_nil _).symm⟩
      · rintro ⟨items, hitems, rfl⟩
        obtain ⟨c, _, hitem, hnil, rfl⟩ := List.forall₂_cons_left_iff.mp hitems
        obtain rfl := List.forall₂_nil_left_iff.mp hnil
        exact ⟨_, c, hitem, .inr ⟨rfl, List.append_nil _, rfl⟩⟩
    | cons e' es =>
      rw [separated, List.append_assoc, List.cons_append] at hstands ⊢
      have hcomma : comma.token ≠ .blank := by
        simp [comma]
      have hmore := hstands.right
      rw [← List.singleton_append] at hmore
      have hstep (rest : List Placed) := entries_part cs rest hstands hparts.1
        (solid_cons hcomma _ _) isEnd_comma
      have hrest (cs' : List Column) := @ih _ cs' (List.cons_ne_nil e' es) hparts.2 hmore.right
      simp only [hstep]
      constructor
      · rintro ⟨rest, c, hitem, ⟨-, cs', hcs', rfl⟩ | ⟨hclosing, -⟩⟩
        · obtain ⟨items, hitems, rfl⟩ := (hrest cs').mp ⟨rest, by simpa [comma] using hcs'⟩
          exact ⟨c :: items, .cons hitem hitems, rfl⟩
        · cases hclosing
      · rintro ⟨items, hitems, rfl⟩
        obtain ⟨c, items, hitem, hmoreItems, rfl⟩ := List.forall₂_cons_left_iff.mp hitems
        obtain ⟨rest, hread⟩ := (hrest _).mpr ⟨items, hmoreItems, rfl⟩
        exact ⟨rest, c, hitem, .inl ⟨rfl, columnsOf items, by simpa [comma] using hread, rfl⟩⟩

theorem separated_cons {α : Type} (separator : α) (as : List α) {rest : List (List α)}
    (h : rest ≠ []) : separated separator (as :: rest) = as ++ separator :: separated separator rest := by
  obtain ⟨bs, rest, rfl⟩ := List.exists_cons_of_ne_nil h
  rfl

/-- A column list that is read falls into closed parts, of which only the last one may
be empty. -/
theorem entries_closed {l : Location} {xs : List Lexeme} {cs : List Column}
    (hstands : Stands source l xs) (h : entries source (solid l xs) = .ok (cs, rest)) :
    ∃ parts, parts ≠ [] ∧ (∀ p ∈ parts, Closed p) ∧ (∀ p ∈ parts.dropLast, p ≠ [])
      ∧ solidTokens xs = separated .comma parts ++ .rightParen :: rest.map Placed.token := by
  induction hn : (solid l xs).length using Nat.strong_induction_on generalizing l xs cs with
  | _ n ih =>
    subst hn
    cases hsolid : solid l xs with
    | nil =>
      rw [hsolid, entries] at h
      cases h
    | cons t r =>
      by_cases ht : t.token = .rightParen
      · rw [hsolid, entries, if_pos ht] at h
        cases h
        refine ⟨[[]], List.cons_ne_nil _ _, by simp [Closed.nil], by simp, ?_⟩
        rw [← solid_map_token l, hsolid, List.map_cons, ht]
        rfl
      · rw [hsolid, entries_cons_eq_ok ht] at h
        obtain ⟨c, u, behind, hentry, hmore⟩ := h
        obtain ⟨-, used, hused, hitem⟩ := entry_sound hentry (List.cons_ne_nil u behind)
        obtain ⟨ys, zs, rfl, hys, hzs⟩ := exists_split _ (hsolid.trans hused)
        obtain ⟨ws, vs, rfl, hws, hvs⟩ := exists_split [u] hzs
        have hpart := (hitem hstands.left hys).isPart
        have htokens : solidTokens (ys ++ (ws ++ vs))
            = solidTokens ys ++ u.token :: behind.map Placed.token := by
          rw [solidTokens_append, ← solid_map_token (l.after (textOf ys)) (ws ++ vs), hzs,
            List.map_cons]
        rcases hmore with ⟨hu, cs', hcs', -⟩ | ⟨hu, -, rfl⟩
        · have hlength : (solid ((l.after (textOf ys)).after (textOf ws)) vs).length
              < (solid l (ys ++ (ws ++ vs))).length := by
            rw [hsolid, hused, hvs, List.length_append, List.length_cons]
            omega
          obtain ⟨parts, hne, hclosed, hparts, hseparated⟩ :=
            ih _ hlength hstands.right.right (by rw [hvs]; exact hcs') rfl
          refine ⟨solidTokens ys :: parts, List.cons_ne_nil _ _, ?_, ?_, ?_⟩
          · exact List.forall_mem_cons.mpr ⟨hpart.closed, hclosed⟩
          · rw [List.dropLast_cons_of_ne_nil hne]
            exact List.forall_mem_cons.mpr ⟨hpart.ne_nil, hparts⟩
          · rw [htokens, hu, ← hvs, solid_map_token, hseparated, separated_cons _ _ hne,
              List.append_assoc, List.cons_append]
        · refine ⟨[solidTokens ys], List.cons_ne_nil _ _, ?_, by simp, ?_⟩
          · exact List.forall_mem_singleton.mpr hpart.closed
          · rw [htokens, hu, separated]

end TableScaffold.Grammar
