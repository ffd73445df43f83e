import TableScaffold.Proofs.Table.Readers
import TableScaffold.Proofs.Table.Syntax

set_option autoImplicit false

/-!
# What the readers of tokens read

A reader of groups, names, types, expressions or references succeeds exactly if a
part of that kind stands in front, and answers the tokens behind it.
-/

namespace TableScaffold.Grammar

open Sql (Placed Token)
open Written (parenDepth)

variable {ts rest : List Placed}

theorem Ahead.head {P : Token → Prop} (h : Ahead P (rest.map Placed.token)) :
    ∀ t ∈ rest.head?, P t.token := by
  intro t ht
  refine h t.token ?_
  rw [List.head?_map]
  exact Option.mem_map_of_mem _ ht

/-! ## Groups -/

theorem closeGroup_eq_ok {depth : Nat} : closeGroup depth ts = .ok rest
    ↔ ∃ inner t, ts = inner ++ t :: rest ∧ parenDepth depth (inner.map Placed.token) = some 0
      ∧ t.token = .rightParen := by
  constructor
  · intro h
    fun_induction closeGroup depth ts with
    | case1 => cases h
    | case2 t r depth ht ih =>
      obtain ⟨inner, u, rfl, hinner, hu⟩ := ih h
      exact ⟨t :: inner, u, rfl, by rw [List.map_cons, ht]; exact hinner, hu⟩
    | case3 t r ht =>
      cases h
      exact ⟨[], t, rfl, rfl, ht⟩
    | case4 t r depth ht ih =>
      obtain ⟨inner, u, rfl, hinner, hu⟩ := ih h
      exact ⟨t :: inner, u, rfl, by rw [List.map_cons, ht]; exact hinner, hu⟩
    | case5 t r depth hleft hright hright' ih =>
      obtain ⟨inner, u, rfl, hinner, hu⟩ := ih h
      refine ⟨t :: inner, u, rfl, ?_, hu⟩
      rw [List.map_cons, parenDepth_cons_of_ne hleft ?_, hinner]
      intro ht
      cases depth with
      | zero => exact hright ht rfl
      | succ depth => exact hright' depth ht rfl
  · rintro ⟨inner, t, rfl, hinner, ht⟩
    exact Written.closeGroup_append hinner ht rest

theorem skipGroup_eq_ok : skipGroup ts = .ok rest
    ↔ ∃ used, ts = used ++ rest ∧ IsGroup (used.map Placed.token) := by
  constructor
  · intro h
    cases ts with
    | nil => cases h
    | cons t r =>
      rw [skipGroup] at h
      split at h
      · next ht =>
        obtain ⟨inner, u, rfl, hinner, hu⟩ := closeGroup_eq_ok.mp h
        exact ⟨t :: inner ++ [u], by simp, inner.map Placed.token, by simp [ht, hu], hinner⟩
      · cases h
  · rintro ⟨used, rfl, inner, hused, hinner⟩
    obtain ⟨t, more, rfl, ht, hmore⟩ := List.map_eq_cons_iff.mp hused
    obtain ⟨is, us, rfl, rfl, hus⟩ := List.map_eq_append_iff.mp hmore
    obtain ⟨u, rfl, hu⟩ := List.map_eq_singleton_iff.mp hus
    rw [List.cons_append, skipGroup, if_pos ht]
    exact closeGroup_eq_ok.mpr ⟨is, u, by simp, hinner, hu⟩

theorem exists_cons_of_isGroup (h : IsGroup (ts.map Placed.token)) :
    ∃ t inner, ts = t :: inner ∧ t.token = .leftParen ∧ inner ≠ [] := by
  obtain ⟨_, hgroup, -⟩ := h
  obtain ⟨t, inner, rfl, ht, hinner⟩ := List.map_eq_cons_iff.mp hgroup
  refine ⟨t, inner, rfl, ht, ?_⟩
  rintro rfl
  simp at hinner

/-! ## Names -/

theorem nameAfter_sound {use : NameUse} {name part : Text}
    (h : nameAfter use name ts = .ok (part, rest)) : ∃ used, ts = used ++ rest
      ∧ (∀ quoted, IsName (.word name quoted :: used.map Placed.token) part)
      ∧ Ahead (· ≠ .period) (rest.map Placed.token) := by
  fun_induction nameAfter use name ts with
  | case1 name =>
    cases h
    exact ⟨[], rfl, .word _, ahead_nil⟩
  | case2 => cases h
  | case3 name t ht =>
    cases h
    exact ⟨[], rfl, .word _, by simpa using ht⟩
  | case4 name t w r ht part quoted hw ih =>
    obtain ⟨used, rfl, hname, hrest⟩ := ih h
    refine ⟨t :: w :: used, rfl, fun quoted' => ?_, hrest⟩
    rw [List.map_cons, List.map_cons, ht, hw]
    exact .qualified name quoted' (hname quoted)
  | case5 => cases h
  | case6 name t w r ht =>
    cases h
    exact ⟨[], rfl, .word _, by simpa using ht⟩

theorem qualifiedName_complete (use : NameUse) {name : Text} (rest : List Placed)
    (h : IsName (ts.map Placed.token) name) (hrest : Ahead (· ≠ .period) (rest.map Placed.token)) :
    qualifiedName use (ts ++ rest) = .ok (name, rest) := by
  generalize htokens : ts.map Placed.token = tokens at h
  induction h generalizing ts with
  | word value quoted =>
    obtain ⟨t, rfl, ht⟩ := List.map_eq_singleton_iff.mp htokens
    rw [List.cons_append, qualifiedName, ht]
    exact Written.nameAfter_stop use value hrest.head
  | qualified value quoted _ ih =>
    obtain ⟨t, us, rfl, ht, hus⟩ := List.map_eq_cons_iff.mp htokens
    obtain ⟨u, us, rfl, hu, hus⟩ := List.map_eq_cons_iff.mp hus
    rw [List.cons_append, qualifiedName, ht]
    exact Written.nameAfter_period hu (ih hus)

theorem qualifiedName_sound {use : NameUse} {name : Text}
    (h : qualifiedName use ts = .ok (name, rest)) :
    ∃ used, ts = used ++ rest ∧ IsName (used.map Placed.token) name
      ∧ Ahead (· ≠ .period) (rest.map Placed.token) := by
  cases ts with
  | nil => cases h
  | cons t r =>
    rw [qualifiedName] at h
    split at h
    · next value quoted ht =>
      obtain ⟨used, rfl, hname, hrest⟩ := nameAfter_sound h
      exact ⟨t :: used, rfl, by rw [List.map_cons, ht]; exact hname quoted, hrest⟩
    · cases h

/-! ## Types -/

theorem typeWords_sound {words : List Text} (h : typeWords ts = (words, rest)) :
    ∃ used, ts = used ++ rest ∧ AreTypeWords (used.map Placed.token) words
      ∧ Ahead StopsType (rest.map Placed.token) := by
  induction ts generalizing words with
  | nil =>
    cases h
    exact ⟨[], rfl, .nil, ahead_nil⟩
  | cons t r ih =>
    rw [typeWords] at h
    split at h
    · next value quoted ht =>
      split at h
      · next hkeyword =>
        cases h
        refine ⟨[], rfl, .nil, ?_⟩
        rw [List.map_cons, ahead_cons, ht]
        exact fun _ => hkeyword
      · next hkeyword =>
        obtain ⟨rfl, rfl⟩ := Prod.mk.inj h
        obtain ⟨used, hr, hused, hrest⟩ := ih rfl
        refine ⟨t :: used, congrArg _ hr, ?_, hrest⟩
        rw [List.map_cons, ht]
        exact .cons (Bool.eq_false_iff.mpr hkeyword) hused
    · next hword =>
      cases h
      refine ⟨[], rfl, .nil, ?_⟩
      rw [List.map_cons, ahead_cons]
      intro hisWord
      cases htoken : t.token with
      | word value quoted => exact absurd htoken (hword value quoted)
      | _ =>
        rw [htoken] at hisWord
        cases hisWord

theorem typeWords_complete {used : List Placed} {words : List Text}
    (hwords : AreTypeWords (used.map Placed.token) words)
    (hrest : Ahead StopsType (rest.map Placed.token)) :
    typeWords (used ++ rest) = (words, rest) := by
  generalize htokens : used.map Placed.token = tokens at hwords
  induction hwords generalizing used with
  | nil =>
    obtain rfl := List.map_eq_nil_iff.mp htokens
    exact Written.typeWords_stop hrest.head
  | cons hkeyword _ ih =>
    obtain ⟨t, us, rfl, ht, hus⟩ := List.map_eq_cons_iff.mp htokens
    rw [List.cons_append, typeWords, ht]
    simp only [hkeyword, Bool.false_eq_true, if_false, ih hus]

theorem columnType_sound {name : Text} {words : List Text}
    (h : columnType name ts = .ok (words, rest)) :
    ∃ used, ts = used ++ rest ∧ IsType (used.map Placed.token) words (rest.map Placed.token) := by
  rw [columnType] at h
  split at h
  · cases h
  · next hne heq =>
    cases h
    obtain ⟨used, hts, hwords, -⟩ := typeWords_sound heq
    exact ⟨used, hts, .words hwords hne ahead_nil⟩
  · next t r hne heq =>
    obtain ⟨used, hts, hwords, hstops⟩ := typeWords_sound heq
    split at h
    · next ht =>
      split at h
      · cases h
      · next behind hskip =>
        obtain ⟨group, hr, hgroup⟩ := skipGroup_eq_ok.mp hskip
        obtain ⟨more, hbehind, hmore, hrest⟩ := typeWords_sound (Prod.eta (typeWords behind)).symm
        obtain ⟨hwords', hrest'⟩ := Prod.mk.inj (Except.ok.inj h)
        rw [hrest'] at hbehind hrest
        refine ⟨used ++ group ++ more, by rw [hts, hr, hbehind]; simp, ?_⟩
        rw [← hwords', List.map_append, List.map_append]
        exact .group hwords hne hgroup hmore hrest
    · next ht =>
      cases h
      refine ⟨used, hts, .words hwords hne ?_⟩
      rw [List.map_cons, ahead_cons] at hstops ⊢
      exact ⟨hstops, ht⟩

theorem columnType_complete (name : Text) {used : List Placed} {words : List Text}
    (htype : IsType (used.map Placed.token) words (rest.map Placed.token)) :
    columnType name (used ++ rest) = .ok (words, rest) := by
  generalize htokens : used.map Placed.token = tokens at htype
  generalize hbehind : rest.map Placed.token = behind at htype
  cases htype with
  | words hwords hne hrest =>
    subst htokens hbehind
    have hread : typeWords (used ++ rest) = (words, rest) :=
      typeWords_complete hwords fun t ht => (hrest t ht).1
    obtain ⟨w, ws, rfl⟩ := List.exists_cons_of_ne_nil hne
    rw [columnType, hread]
    cases rest with
    | nil => rfl
    | cons t r => exact if_neg (hrest t.token rfl).2
  | @group _ _ _ _ words₁ words₂ hwords hne hgroup hmore hrest =>
    subst hbehind
    obtain ⟨front, vs, rfl, hfront, rfl⟩ := List.map_eq_append_iff.mp htokens
    obtain ⟨us, gs, rfl, rfl, rfl⟩ := List.map_eq_append_iff.mp hfront
    have hskip : skipGroup (gs ++ (vs ++ rest)) = .ok (vs ++ rest) :=
      skipGroup_eq_ok.mpr ⟨gs, rfl, hgroup⟩
    have hread' : typeWords (vs ++ rest) = (words₂, rest) := typeWords_complete hmore hrest
    obtain ⟨t, more, rfl, ht, -⟩ := exists_cons_of_isGroup hgroup
    have hread : typeWords (us ++ (t :: more ++ (vs ++ rest)))
        = (words₁, t :: more ++ (vs ++ rest)) := by
      refine typeWords_complete hwords ?_
      simp [ht, StopsType, Token.isWord]
    obtain ⟨w, ws, hcons⟩ := List.exists_cons_of_ne_nil hne
    rw [hcons] at hread ⊢
    rw [List.append_assoc, List.append_assoc, columnType, hread]
    simp only [List.cons_append] at hskip ⊢
    simp only [ht, if_true, hskip, hread']

/-! ## Expressions -/

/-- A token of an expression counts for its parentheses, and outside of groups it is no
comma and, unless it is the first one, no keyword of a constraint. -/
theorem expressionDepth?_eq_some {depth depth' : Nat} {first : Bool} {t : Token} :
    expressionDepth? depth first t = some depth' ↔ parenDepth depth [t] = some depth'
      ∧ (depth = 0 → t ≠ .comma ∧ (first = false → t.isAnyKeyword constraintKeywords = false)) := by
  cases depth with
  | zero =>
    cases t with
    | leftParen => simp [expressionDepth?, parenDepth, Token.isAnyKeyword, Token.isKeyword]
    | rightParen => simp [expressionDepth?, parenDepth]
    | comma => simp [expressionDepth?, parenDepth]
    | _ =>
      cases first <;> simp [expressionDepth?, parenDepth, and_comm]
  | succ depth => cases t <;> simp [expressionDepth?, parenDepth]

theorem expressionDepth?_eq_none {depth : Nat} {first : Bool} {t : Token}
    (h : expressionDepth? depth first t = none) : depth = 0 ∧ StopsExpression t := by
  cases depth with
  | zero =>
    refine ⟨rfl, ?_⟩
    cases t with
    | leftParen => cases h
    | rightParen => exact .inl isEnd_rightParen
    | comma => exact .inl isEnd_comma
    | _ =>
      refine .inr ?_
      simp only [expressionDepth?] at h
      split at h
      · next hkeyword => exact (Bool.and_eq_true_iff.mp hkeyword).2
      · cases h
  | succ depth => cases t <;> cases h

/-- Where an expression ends before the end of all tokens, it is balanced, and neither a
comma nor a keyword ends it earlier; `depth` groups of it are open in front. -/
theorem expressionTokens_sound {depth : Nat} {first : Bool} {used : List Placed}
    (h : expressionTokens depth first ts = (used, rest)) (hne : rest ≠ []) :
    parenDepth depth (used.map Placed.token) = some 0
      ∧ (∀ before behind, used.map Placed.token = before ++ .comma :: behind →
        parenDepth depth before ≠ some 0)
      ∧ (∀ before token behind, used.map Placed.token = before ++ token :: behind →
        (first = true → before ≠ []) → parenDepth depth before = some 0 →
        token.isAnyKeyword constraintKeywords = false)
      ∧ Ahead StopsExpression (rest.map Placed.token) := by
  induction ts generalizing depth first used with
  | nil =>
    cases h
    exact absurd rfl hne
  | cons t r ih =>
    rw [expressionTokens] at h
    cases hdepth : expressionDepth? depth first t.token with
    | none =>
      rw [hdepth] at h
      cases h
      obtain ⟨rfl, hstops⟩ := expressionDepth?_eq_none hdepth
      exact ⟨rfl, by simp, by simp, by simpa using hstops⟩
    | some depth' =>
      rw [hdepth] at h
      obtain ⟨rfl, rfl⟩ := Prod.mk.inj h
      obtain ⟨hbalanced, hcommas, hkeywords, hstops⟩ := ih rfl
      obtain ⟨ht, hzero⟩ := expressionDepth?_eq_some.mp hdepth
      have hcons (us : List Token) : parenDepth depth (t.token :: us) = parenDepth depth' us := by
        rw [parenDepth_cons, ht]
        rfl
      rw [List.map_cons]
      refine ⟨(hcons _).trans hbalanced, ?_, ?_, hstops⟩
      · intro before behind heq
        cases before with
        | nil =>
          intro hopen
          exact absurd (List.cons.inj heq).1 (hzero (Option.some.inj hopen)).1
        | cons u before =>
          obtain ⟨rfl, htail⟩ := List.cons.inj heq
          rw [hcons]
          exact hcommas before behind htail
      · intro before token behind heq hfirst hopen
        cases before with
        | nil =>
          obtain ⟨rfl, -⟩ := List.cons.inj heq
          refine (hzero (Option.some.inj hopen)).2 ?_
          exact Bool.eq_false_iff.mpr fun h => hfirst h rfl
        | cons u before =>
          obtain ⟨rfl, htail⟩ := List.cons.inj heq
          rw [hcons] at hopen
          exact hkeywords before token behind htail (fun h => absurd h Bool.false_ne_true) hopen

theorem isExpression_of_expressionTokens {used : List Placed}
    (h : expressionTokens 0 true ts = (used, rest)) (hused : used ≠ []) (hrest : rest ≠ []) :
    IsExpression (used.map Placed.token) ∧ Ahead StopsExpression (rest.map Placed.token) := by
  obtain ⟨hbalanced, hcommas, hkeywords, hstops⟩ := expressionTokens_sound h hrest
  refine ⟨⟨by simpa using hused, ⟨hbalanced, hcommas⟩, ?_⟩, hstops⟩
  exact fun before token behind heq hne => hkeywords before token behind heq fun _ => hne

theorem expressionTokens_complete (h : IsExpression (ts.map Placed.token))
    (hrest : Ahead StopsExpression (rest.map Placed.token)) :
    expressionTokens 0 true (ts ++ rest) = (ts, rest) := by
  refine Written.expressionTokens_append h.closed.balanced h.closed.commas ?_ ?_ ?_
  · exact fun before token behind heq hne => h.keywords before token behind heq (hne rfl)
  · exact fun t ht => or_assoc.mp (hrest.head t ht)
  · exact fun _ => by simpa using h.ne_nil

/-! ## References -/

theorem firstWord?_append {us : List Token} (h : us ≠ []) (vs : List Token) :
    firstWord? (us ++ vs) = firstWord? us := by
  obtain ⟨t, us, rfl⟩ := List.exists_cons_of_ne_nil h
  cases t <;> rfl

theorem peekWord?_eq (ts : List Placed) : peekWord? ts = firstWord? (ts.map Placed.token) := by
  cases ts with
  | nil => rfl
  | cons t r =>
    rw [peekWord?, List.map_cons]
    cases t.token <;> rfl

theorem reference_sound {c : Constraint} (h : reference ts = .ok (c, rest)) :
    ∃ used, ts = used ++ rest
      ∧ IsReference (used.map Placed.token) c (rest.map Placed.token) := by
  rw [reference] at h
  split at h
  · cases h
  · next heq =>
    cases h
    obtain ⟨used, hts, hname, -⟩ := qualifiedName_sound heq
    exact ⟨used, hts, .table hname ahead_nil⟩
  · next t r heq =>
    obtain ⟨used, hts, hname, hstops⟩ := qualifiedName_sound heq
    split at h
    · next ht =>
      split at h
      · cases h
      · next behind hskip =>
        cases h
        obtain ⟨group, hr, hgroup⟩ := skipGroup_eq_ok.mp hskip
        refine ⟨used ++ group, by rw [hts, hr, List.append_assoc], ?_⟩
        obtain ⟨u, inner, rfl, -, hinner⟩ := exists_cons_of_isGroup hgroup
        rw [List.cons_append] at hr
        obtain ⟨rfl, rfl⟩ := List.cons.inj hr
        rw [peekWord?_eq, List.map_append, List.map_append,
          firstWord?_append (by simpa using hinner)]
        exact .column hname hgroup
    · next ht =>
      cases h
      refine ⟨used, hts, .table hname ?_⟩
      rw [List.map_cons, ahead_cons] at hstops ⊢
      exact ⟨hstops, ht⟩

theorem reference_complete {used : List Placed} {c : Constraint}
    (href : IsReference (used.map Placed.token) c (rest.map Placed.token)) :
    reference (used ++ rest) = .ok (c, rest) := by
  generalize htokens : used.map Placed.token = tokens at href
  generalize hbehind : rest.map Placed.token = behind at href
  cases href with
  | table hname hrest =>
    subst htokens hbehind
    have hread : qualifiedName .referencedTable (used ++ rest) = .ok (_, rest) :=
      qualifiedName_complete .referencedTable rest hname fun t ht => (hrest t ht).1
    rw [reference, hread]
    cases rest with
    | nil => rfl
    | cons t r => exact if_neg (hrest t.token rfl).2
  | column hname hgroup =>
    obtain ⟨us, group, rfl, rfl, rfl⟩ := List.map_eq_append_iff.mp htokens
    have hskip : skipGroup (group ++ rest) = .ok rest := skipGroup_eq_ok.mpr ⟨group, rfl, hgroup⟩
    obtain ⟨t, inner, rfl, ht, hinner⟩ := exists_cons_of_isGroup hgroup
    have hread := qualifiedName_complete .referencedTable (t :: inner ++ rest) hname
      (by simp [ht])
    have hword : inner.map Placed.token ≠ [] := by simpa using hinner
    rw [List.append_assoc, reference, hread]
    simp only [List.cons_append] at hskip ⊢
    simp only [ht, if_true, hskip, peekWord?_eq, List.map_append,
      firstWord?_append hword, List.map_cons, List.tail_cons]

end TableScaffold.Grammar
