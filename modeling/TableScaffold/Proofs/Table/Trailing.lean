import TableScaffold.Proofs.Table.Following
import TableScaffold.Proofs.Table.Listing

set_option autoImplicit false

/-!
# What stands behind the constraints of a column

Tokens that begin no constraint are skipped, but skipping goes token by token, so a
skipped clause may hold a word that is taken for a constraint of its own.  Of the
actions behind a reference, `SET NULL` adds a constraint and `SET DEFAULT` begins a
default value; the others leave the table alone (`Table.parse_trailing`).
-/

namespace TableScaffold

open Sql (Lexeme Placed Token textOf)
open Written (solid solidTokens solid_append solid_map_token)

/-! ## Actions behind a reference -/

/-- What may befall a row that others refer to. -/
inductive RowEvent where
  | delete
  | update
  deriving DecidableEq, Repr

/-- What then happens to the rows that refer to it. -/
inductive ReferentialEffect where
  | cascade
  | restrict
  | noAction
  | setNull
  | setDefault
  deriving DecidableEq, Repr

/-- An effect of an event. -/
structure ReferentialAction where
  event : RowEvent
  effect : ReferentialEffect
  deriving DecidableEq, Repr

/-- The keyword of an event. -/
def RowEvent.keyword : RowEvent → String
  | delete => "DELETE"
  | update => "UPDATE"

/-- The keywords of an effect. -/
def ReferentialEffect.keywords : ReferentialEffect → List String
  | cascade => ["CASCADE"]
  | restrict => ["RESTRICT"]
  | noAction => ["NO", "ACTION"]
  | setNull => ["SET", "NULL"]
  | setDefault => ["SET", "DEFAULT"]

/-- The constraint that an effect is taken for. -/
def ReferentialEffect.constraint? : ReferentialEffect → Option Constraint
  | setNull => some .null
  | _ => none

/-- The effects that are skipped. -/
def ReferentialEffect.isSkipped : ReferentialEffect → Bool
  | setNull | setDefault => false
  | _ => true

namespace Grammar

/-- Keywords in some letter case. -/
def AreKeywords (keywords : List String) (ts : List Token) : Prop :=
  List.Forall₂ (fun keyword t => t.isKeyword keyword.toList = true) keywords ts

/-- Actions in a row. -/
inductive AreActions : List Lexeme → List ReferentialAction → Prop where
  | nil {xs : List Lexeme} : solidTokens xs = [] → AreActions xs []
  | cons {xs ys : List Lexeme} {action : ReferentialAction} {actions : List ReferentialAction} :
    AreKeywords ("ON" :: action.event.keyword :: action.effect.keywords) (solidTokens xs) →
    AreActions ys actions → AreActions (xs ++ ys) (action :: actions)

/-- A column that ends with a reference. -/
inductive EndsInReference : List Lexeme → Column → Prop where
  | intro {xs ys : List Lexeme} {c : Column} {t : Token} {ts : List Token} {d : Constraint} :
    IsColumn xs c (solidTokens ys ++ [.rightParen]) → solidTokens ys = t :: ts →
    t.isKeyword "REFERENCES".toList = true → IsReference ts d [.rightParen] →
    EndsInReference (xs ++ ys) { c with constraints := c.constraints ++ [d] }

/-- A generated identity, and the constraint it is taken for, if any. -/
inductive IsIdentity : List Lexeme → Option Constraint → Prop where
  | always {xs : List Lexeme} :
    AreKeywords ["GENERATED", "ALWAYS", "AS", "IDENTITY"] (solidTokens xs) → IsIdentity xs none
  | byDefault {xs value : List Lexeme} :
    AreKeywords ["GENERATED", "BY", "DEFAULT"] (solidTokens xs) →
    AreKeywords ["AS", "IDENTITY"] (solidTokens value) →
    IsIdentity (xs ++ value) (some (.default (spelled value)))

/-! ## Tokens that are skipped -/

/-- A token that is skipped by itself. -/
structure IsSkipped (t : Token) : Prop where
  plain : IsPlain t
  free : ∀ keyword ∈ clauseKeywords, t.isKeyword keyword.toList = false

theorem isSkipped_of_isKeyword {t : Token} {keyword : String}
    (h : t.isKeyword keyword.toList = true)
    (hfree : ∀ other ∈ clauseKeywords, Text.eqIgnoringCase keyword.toList other.toList = false) :
    IsSkipped t where
  plain := isPlain_of_isKeyword h
  free other hother := (isKeyword_eq h _).trans (hfree other hother)

/-- Tokens that are skipped one by one stand for no constraint. -/
theorem isClauses_of_isSkipped {xs : List Lexeme} (h : ∀ t ∈ solidTokens xs, IsSkipped t)
    (rest : List Token) : IsClauses xs [] rest := by
  induction xs with
  | nil => exact .nil rfl
  | cons x xs ih =>
    rw [← List.singleton_append] at h ⊢
    rw [solidTokens_append, List.forall_mem_append] at h
    have hmore := ih h.2
    by_cases hx : x.token = .blank
    · exact hmore.blank_append (by simp [solidTokens, hx])
    · have htoken : solidTokens [x] = [x.token] := by
        simp [solidTokens, hx]
      have hskipped := h.1 x.token (by simp [htoken])
      refine .cons (c := none) (.plain ?_) hmore
      rw [htoken]
      exact .other hskipped.plain hskipped.free

theorem isSkipped_of_areKeywords {keywords : List String} {ts : List Token}
    (h : AreKeywords keywords ts) (hfree : ∀ keyword ∈ keywords, ∀ other ∈ clauseKeywords,
      Text.eqIgnoringCase keyword.toList other.toList = false) : ∀ t ∈ ts, IsSkipped t := by
  induction h with
  | nil => exact nofun
  | cons ht _ ih =>
    rw [List.forall_mem_cons] at hfree ⊢
    exact ⟨isSkipped_of_isKeyword ht hfree.1, ih hfree.2⟩

/-- Where the keywords fall into two parts, so do the lexemes. -/
theorem exists_split_keywords {keywords keywords' : List String} {xs : List Lexeme}
    (h : AreKeywords (keywords ++ keywords') (solidTokens xs)) :
    ∃ ys zs, xs = ys ++ zs ∧ AreKeywords keywords (solidTokens ys)
      ∧ AreKeywords keywords' (solidTokens zs) := by
  obtain ⟨us, vs, htokens, hus, hvs⟩ := exists_of_forall₂_append h
  obtain ⟨ys, zs, rfl, rfl, rfl⟩ := exists_split_tokens us htokens
  exact ⟨ys, zs, rfl, hus, hvs⟩

theorem areKeywords_singleton {keyword : String} {ts : List Token} :
    AreKeywords [keyword] ts ↔ ∃ t, ts = [t] ∧ t.isKeyword keyword.toList = true := by
  constructor
  · intro h
    obtain ⟨t, _, ht, hnil, rfl⟩ := List.forall₂_cons_left_iff.mp h
    obtain rfl := List.forall₂_nil_left_iff.mp hnil
    exact ⟨t, rfl, ht⟩
  · rintro ⟨t, rfl, ht⟩
    exact .cons ht .nil

/-- Keywords that begin no constraint stand for none. -/
theorem isClauses_of_areKeywords {keywords : List String} {xs : List Lexeme}
    (h : AreKeywords keywords (solidTokens xs)) (hfree : ∀ keyword ∈ keywords,
      ∀ other ∈ clauseKeywords, Text.eqIgnoringCase keyword.toList other.toList = false)
    (rest : List Token) : IsClauses xs [] rest :=
  isClauses_of_isSkipped (isSkipped_of_areKeywords h hfree) rest

/-- Of an action with `SET`, everything is skipped up to the last keyword. -/
theorem exists_skipped_set {xs : List Lexeme} {event : RowEvent} {word : String}
    (h : AreKeywords ["ON", event.keyword, "SET", word] (solidTokens xs)) :
    ∃ ys zs t, xs = ys ++ zs ∧ (∀ rest, IsClauses ys [] rest) ∧ solidTokens zs = [t]
      ∧ t.isKeyword word.toList = true := by
  have hsplit : AreKeywords (["ON", event.keyword, "SET"] ++ [word]) (solidTokens xs) := h
  obtain ⟨ys, zs, rfl, hys, hzs⟩ := exists_split_keywords hsplit
  obtain ⟨t, hzs, ht⟩ := areKeywords_singleton.mp hzs
  exact ⟨ys, zs, t, rfl, isClauses_of_areKeywords hys (by cases event <;> decide), hzs, ht⟩

/-! ## Actions without `SET DEFAULT` -/

/-- An action but `SET DEFAULT` is skipped but for `NULL`. -/
theorem isClauses_of_action {xs : List Lexeme} {action : ReferentialAction}
    (h : AreKeywords ("ON" :: action.event.keyword :: action.effect.keywords) (solidTokens xs))
    (hdefault : action.effect ≠ .setDefault) (rest : List Token) :
    IsClauses xs action.effect.constraint?.toList rest := by
  obtain ⟨event, effect⟩ := action
  cases effect with
  | setNull =>
    obtain ⟨ys, zs, t, rfl, hys, hzs, ht⟩ := exists_skipped_set h
    have hnull : IsClause zs (some .null) rest := by
      refine .plain ?_
      rw [hzs]
      exact .single .null ht
    exact (hys _).append hnull.isClauses
  | setDefault => exact absurd rfl hdefault
  | _ => exact isClauses_of_areKeywords h (by cases event <;> decide) rest

/-- The constraints that actions are taken for. -/
def constraintsOf (actions : List ReferentialAction) : List Constraint :=
  actions.filterMap fun action => action.effect.constraint?

theorem isClauses_of_actions {xs : List Lexeme} {actions : List ReferentialAction}
    (h : AreActions xs actions) (hdefault : ∀ action ∈ actions, action.effect ≠ .setDefault)
    (rest : List Token) : IsClauses xs (constraintsOf actions) rest := by
  induction h with
  | nil h => exact .nil h
  | @cons _ _ action actions h _ ih =>
    rw [List.forall_mem_cons] at hdefault
    have hcons : constraintsOf (action :: actions)
        = action.effect.constraint?.toList ++ constraintsOf actions := by
      unfold constraintsOf
      rw [List.filterMap_cons]
      cases action.effect.constraint? <;> rfl
    rw [hcons]
    exact (isClauses_of_action h hdefault.1 _).append (ih hdefault.2)

/-- Actions do not go on with a reference. -/
theorem AreActions.ahead {xs : List Lexeme} {actions : List ReferentialAction}
    (h : AreActions xs actions) :
    Ahead (fun t => t ≠ .period ∧ t ≠ .leftParen) (solidTokens xs ++ [.rightParen]) := by
  cases h with
  | nil h => simp [h]
  | cons h _ =>
    obtain ⟨t, ts, ht, -, htokens⟩ := List.forall₂_cons_left_iff.mp h
    rw [solidTokens_append, htokens, List.cons_append, List.cons_append, ahead_cons]
    refine ⟨?_, (isPlain_of_isKeyword ht).1⟩
    rintro rfl
    cases ht

/-- A reference may stand in front of anything that does not go on with it. -/
theorem EndsInReference.isColumn {xs : List Lexeme} {c : Column} {rest : List Token}
    (h : EndsInReference xs c) (hrest : Ahead (fun t => t ≠ .period ∧ t ≠ .leftParen) rest) :
    IsColumn xs c rest := by
  cases h with
  | @intro xs ys c t ts d hcolumn htokens ht hreference =>
    have honward : Onward (solidTokens ys ++ [.rightParen]) (solidTokens ys ++ rest) := by
      rw [htokens]
      exact .inl rfl
    have hreference' : IsReference ts d rest := by
      cases hreference with
      | table hname _ => exact .table hname hrest
      | column hname hgroup => exact .column hname hgroup
    have hclause : IsClause ys (some d) rest := by
      refine .plain ?_
      rw [htokens]
      exact .reference ht hreference'
    exact (hcolumn.onward honward).append hclause.isClauses

/-! ## Actions that are not skipped -/

/-- A clause that begins with `NULL` or `DEFAULT` stands for a constraint. -/
theorem IsClause.isSome_of_keyword {xs : List Lexeme} {c : Option Constraint} {rest : List Token}
    {t : Token} {ts : List Token} {keyword : String} (h : IsClause xs c rest)
    (hxs : solidTokens xs = t :: ts) (ht : t.isKeyword keyword.toList = true)
    (hkeyword : keyword = "NULL" ∨ keyword = "DEFAULT") : c.isSome = true := by
  -- no other keyword begins a clause that stands for nothing
  have hother {other : String} (hother : t.isKeyword other.toList = true)
      (hne : Text.eqIgnoringCase keyword.toList other.toList = false) : c.isSome = true := by
    rw [isKeyword_eq ht, hne] at hother
    cases hother
  cases h with
  | plain h =>
    rw [hxs] at h
    cases h with
    | group h =>
      obtain ⟨inner, heq, -⟩ := h
      obtain ⟨rfl, -⟩ := List.cons.inj heq
      cases ht
    | half hpair hfirst =>
      refine hother hfirst ?_
      cases hpair <;> rcases hkeyword with rfl | rfl <;> decide
    | named hfirst => exact hother hfirst (by rcases hkeyword with rfl | rfl <;> decide)
    | nameless hfirst => exact hother hfirst (by rcases hkeyword with rfl | rfl <;> decide)
    | other _ hfree =>
      have hmem : keyword ∈ clauseKeywords := by
        rcases hkeyword with rfl | rfl <;> decide
      rw [hfree keyword hmem] at ht
      cases ht
    | _ => rfl
  | default => rfl

theorem IsClauses.ne_nil_of_keyword {xs : List Lexeme} {cs : List Constraint} {rest : List Token}
    {t : Token} {ts : List Token} {keyword : String} (h : IsClauses xs cs rest)
    (hxs : solidTokens xs = t :: ts) (ht : t.isKeyword keyword.toList = true)
    (hkeyword : keyword = "NULL" ∨ keyword = "DEFAULT") : cs ≠ [] := by
  cases h with
  | nil h =>
    rw [h] at hxs
    cases hxs
  | cons h _ =>
    obtain ⟨u, us, hu⟩ := h.exists_cons
    rw [solidTokens_append, hu, List.cons_append] at hxs
    obtain ⟨rfl, -⟩ := List.cons.inj hxs
    obtain ⟨d, rfl⟩ := Option.isSome_iff_exists.mp (h.isSome_of_keyword hu ht hkeyword)
    exact List.cons_ne_nil _ _

/-- An action with `SET` stands for a constraint. -/
theorem IsClauses.ne_nil_of_set {xs ys : List Lexeme} {cs : List Constraint} {event : RowEvent}
    {word : String} (hxs : AreKeywords ["ON", event.keyword, "SET", word] (solidTokens xs))
    (hword : word = "NULL" ∨ word = "DEFAULT") (h : IsClauses (xs ++ ys) cs [.rightParen]) :
    cs ≠ [] := by
  obtain ⟨front, back, t, rfl, hfront, hback, ht⟩ := exists_skipped_set hxs
  rw [List.append_assoc] at h
  obtain ⟨ds, hds, rfl⟩ := (IsClauses.append_iff (hfront _)).mp h
  have htokens : solidTokens (back ++ ys) = t :: solidTokens ys := by
    rw [solidTokens_append, hback]
    rfl
  exact hds.ne_nil_of_keyword htokens ht hword

/-- Only actions that are skipped stand for no constraint. -/
theorem AreActions.isSkipped_of_isClauses {xs : List Lexeme} {actions : List ReferentialAction}
    (h : AreActions xs actions) (hxs : IsClauses xs [] [.rightParen]) :
    ∀ action ∈ actions, action.effect.isSkipped = true := by
  induction h with
  | nil => exact nofun
  | @cons xs ys action actions h _ ih =>
    obtain ⟨event, effect⟩ := action
    rw [List.forall_mem_cons]
    cases effect with
    | setNull => exact absurd rfl (hxs.ne_nil_of_set h (.inl rfl))
    | setDefault => exact absurd rfl (hxs.ne_nil_of_set h (.inr rfl))
    | _ =>
      have hskip := isClauses_of_action h nofun (solidTokens ys ++ [.rightParen])
      obtain ⟨ds, hys, hds⟩ := (IsClauses.append_iff hskip).mp hxs
      obtain rfl : [] = ds := hds
      exact ⟨rfl, ih hys⟩

/-! ## A generated identity -/

section Generated

variable {xs g : List Lexeme}

/-- Behind a column, `GENERATED` stands for nothing. -/
theorem IsColumn.generated {c : Column} (h : IsColumn xs c [.rightParen])
    (hg : AreKeywords ["GENERATED"] (solidTokens g)) (rest : List Token) :
    IsColumn (xs ++ g) c rest := by
  obtain ⟨t, htoken, ht⟩ := areKeywords_singleton.mp hg
  have hends : EndsPart t := endsPart_of_isKeyword ht (by decide) (by decide) (by decide)
  rcases h.keyword hends htoken rest with hcolumn | ⟨hcolumn, -⟩
  · have hfront : IsColumn xs c (solidTokens g ++ rest) := by rwa [htoken]
    have happend := hfront.append (isClauses_of_areKeywords hg (by decide) rest)
    rwa [List.append_nil] at happend
  · exact hcolumn

theorem isExpression_of_identity {ts : List Token} (h : AreKeywords ["AS", "IDENTITY"] ts) :
    IsExpression ts := by
  obtain ⟨t, _, ht, hmore, rfl⟩ := List.forall₂_cons_left_iff.mp h
  obtain ⟨u, _, hu, hnil, rfl⟩ := List.forall₂_cons_left_iff.mp hmore
  obtain rfl := List.forall₂_nil_left_iff.mp hnil
  refine ⟨List.cons_ne_nil _ _,
    .cons (isPlain_of_isKeyword ht) (.singleton (isPlain_of_isKeyword hu)), ?_⟩
  intro before token behind heq hne _
  obtain ⟨v, before, rfl⟩ := List.exists_cons_of_ne_nil hne
  have hmem : token ∈ [u] := by
    rw [(List.cons.inj heq).2]
    exact List.mem_append_right before List.mem_cons_self
  rw [List.mem_singleton.mp hmem, isAnyKeyword_eq hu]
  decide

/-- An identity that is always generated is skipped, and one that is generated by default
is a default value. -/
theorem IsColumn.identity {c : Column} {d : Option Constraint} (h : IsColumn xs c [.rightParen])
    (hg : IsIdentity g d) :
    IsColumn (xs ++ g) { c with constraints := c.constraints ++ d.toList } [.rightParen] := by
  cases hg with
  | always hg =>
    have hsplit : AreKeywords (["GENERATED"] ++ ["ALWAYS", "AS", "IDENTITY"]) (solidTokens g) := hg
    obtain ⟨first, more, rfl, hfirst, hmore⟩ := exists_split_keywords hsplit
    have hskipped := isClauses_of_areKeywords hmore (by decide) [.rightParen]
    have hcolumn := (h.generated hfirst _).append hskipped
    rwa [List.append_assoc] at hcolumn
  | @byDefault g value hg hvalue =>
    have hsplit : AreKeywords (["GENERATED"] ++ (["BY"] ++ ["DEFAULT"])) (solidTokens g) := hg
    obtain ⟨first, more, rfl, hfirst, hmore⟩ := exists_split_keywords hsplit
    obtain ⟨second, last, rfl, hsecond, hlast⟩ := exists_split_keywords hmore
    obtain ⟨t, hlast, ht⟩ := areKeywords_singleton.mp hlast
    have hdefault : IsClause (last ++ value) (some (.default (spelled value))) [.rightParen] :=
      .default hlast ht (isExpression_of_identity hvalue) (ahead_cons.mpr (.inl isEnd_rightParen))
    have hskipped := isClauses_of_areKeywords hsecond (by decide)
      (solidTokens (last ++ value) ++ [.rightParen])
    have hcolumn := (h.generated hfirst _).append (hskipped.append hdefault.isClauses)
    rwa [List.append_assoc, ← List.append_assoc second, ← List.append_assoc first] at hcolumn

end Generated

/-- Clauses do not end with `DEFAULT`. -/
theorem not_isClauses_of_default {xs : List Lexeme} {cs : List Constraint} {t : Token}
    (hxs : solidTokens xs = [t]) (ht : t.isKeyword "DEFAULT".toList = true) :
    ¬ IsClauses xs cs [.rightParen] := by
  intro h
  have hread := constraints_clauses [anyClosing] (stands_textOf xs) h
  rw [constraints_of_isEnd isEnd_rightParen] at hread
  rw [← solid_map_token Location.start] at hxs
  obtain ⟨u, hsolid, rfl⟩ := List.map_eq_singleton_iff.mp hxs
  rw [hsolid, List.singleton_append] at hread
  have hfault : constraint (textOf xs) u [anyClosing] = .error (.expectedExpression, [anyClosing]) := by
    simp only [constraint, if_neg (isPlain_of_isKeyword ht).1, isKeyword_eq ht]
    rfl
  rw [constraints, if_neg (by simpa [IsEnd] using not_isEnd_of_isKeyword ht)] at hread
  split at hread
  · cases hread
  · next heq =>
    rw [hfault] at heq
    cases heq

/-! ## Actions behind a column -/

theorem closed_of_areKeywords {keywords : List String} {ts : List Token}
    (h : AreKeywords keywords ts) : Closed ts := by
  induction h with
  | nil => exact .nil
  | cons ht _ ih => exact .cons (isPlain_of_isKeyword ht) ih

theorem IsIdentity.closed {xs : List Lexeme} {d : Option Constraint} (h : IsIdentity xs d) :
    Closed (solidTokens xs) := by
  cases h with
  | always h => exact closed_of_areKeywords h
  | byDefault h hvalue =>
    rw [solidTokens_append]
    exact (closed_of_areKeywords h).append (closed_of_areKeywords hvalue)

theorem AreActions.closed {xs : List Lexeme} {actions : List ReferentialAction}
    (h : AreActions xs actions) : Closed (solidTokens xs) := by
  induction h with
  | nil h =>
    rw [h]
    exact .nil
  | cons h _ ih =>
    rw [solidTokens_append]
    exact (closed_of_areKeywords h).append ih

theorem AreActions.blank_append {bs xs : List Lexeme} {actions : List ReferentialAction}
    (h : AreActions xs actions) (hbs : solidTokens bs = []) : AreActions (bs ++ xs) actions := by
  cases h with
  | nil h => exact .nil (by rw [solidTokens_append, hbs, h, List.nil_append])
  | cons h hmore =>
    rw [← List.append_assoc]
    exact .cons (by rwa [solidTokens_append, hbs]) hmore

theorem AreActions.append {xs ys : List Lexeme} {actions actions' : List ReferentialAction}
    (h : AreActions xs actions) (hys : AreActions ys actions') :
    AreActions (xs ++ ys) (actions ++ actions') := by
  induction h with
  | nil h => exact hys.blank_append h
  | cons h _ ih =>
    rw [List.append_assoc]
    exact .cons h ih

section Actions

variable {xs ys : List Lexeme} {c : Column} {actions : List ReferentialAction}

theorem EndsInReference.isColumn_actions (h : EndsInReference xs c) (hys : AreActions ys actions)
    (hdefault : ∀ action ∈ actions, action.effect ≠ .setDefault) :
    IsColumn (xs ++ ys) { c with constraints := c.constraints ++ constraintsOf actions }
      [.rightParen] :=
  (h.isColumn hys.ahead).append (isClauses_of_actions hys hdefault _)

/-- Actions leave a column alone exactly if all of them are skipped. -/
theorem EndsInReference.isColumn_actions_iff (h : EndsInReference xs c)
    (hys : AreActions ys actions) :
    IsColumn (xs ++ ys) c [.rightParen] ↔ ∀ action ∈ actions, action.effect.isSkipped = true := by
  constructor
  · intro hcolumn
    obtain ⟨cs, hcs, heq⟩ := ((h.isColumn hys.ahead).append_iff).mp hcolumn
    have hnil : c.constraints = c.constraints ++ cs := congrArg Column.constraints heq
    obtain rfl := List.self_eq_append_right.mp hnil
    exact hys.isSkipped_of_isClauses hcs
  · intro hskipped
    have hdefault : ∀ action ∈ actions, action.effect ≠ .setDefault := by
      intro action haction heq
      have hkept := hskipped action haction
      rw [heq] at hkept
      cases hkept
    have hnone : constraintsOf actions = [] := by
      refine List.filterMap_eq_nil_iff.mpr fun action haction => ?_
      have hkept := hskipped action haction
      generalize action.effect = effect at hkept ⊢
      cases effect <;> first | rfl | cases hkept
    have hcolumn := h.isColumn_actions hys hdefault
    rwa [hnone, List.append_nil] at hcolumn

theorem AreActions.set_default {last : List Lexeme} {event : RowEvent} (h : AreActions ys actions)
    (hlast : AreKeywords ["ON", event.keyword, "SET", "DEFAULT"] (solidTokens last)) :
    AreActions (ys ++ last) (actions ++ [⟨event, .setDefault⟩]) := by
  have hend : AreActions (last ++ []) [⟨event, .setDefault⟩] := .cons hlast (.nil rfl)
  rw [List.append_nil] at hend
  exact h.append hend

/-- Actions that end with `SET DEFAULT` are not read. -/
theorem EndsInReference.not_isColumn_set_default {last : List Lexeme} {event : RowEvent}
    (h : EndsInReference xs c) (hys : AreActions ys actions)
    (hdefault : ∀ action ∈ actions, action.effect ≠ .setDefault)
    (hlast : AreKeywords ["ON", event.keyword, "SET", "DEFAULT"] (solidTokens last)) (c' : Column) :
    ¬ IsColumn (xs ++ (ys ++ last)) c' [.rightParen] := by
  intro hcolumn
  have hactions := hys.set_default hlast
  obtain ⟨cs, hcs, -⟩ := ((h.isColumn hactions.ahead).append_iff).mp hcolumn
  obtain ⟨ds, hds, -⟩ := (IsClauses.append_iff (isClauses_of_actions hys hdefault _)).mp hcs
  obtain ⟨front, back, t, rfl, hfront, hback, ht⟩ := exists_skipped_set hlast
  obtain ⟨fs, hfs, -⟩ := (IsClauses.append_iff (hfront _)).mp hds
  exact not_isClauses_of_default hback ht hfs

end Actions

end Grammar

/-! ## Tables -/

open Grammar

/-- What stands behind the column of a statement that defines a table.  Actions behind a
reference leave the table alone exactly if all of them are skipped; `SET NULL` adds a
constraint, and with `SET DEFAULT` at the end the statement defines no table.  An identity
that is always generated leaves the table alone, and one that is generated by default adds
a default value. -/
theorem Table.parse_trailing {statement : Text} {head tail e : List Lexeme} {name : Text}
    {es₁ es₂ : List (List Lexeme)} {t : Table} (hhead : IsHead head name)
    (hparts : ∀ x ∈ es₁ ++ e :: es₂, IsPart x)
    (he : startsTableConstraint (solidTokens e) = false)
    (hspells : Spells statement (listing head (es₁ ++ e :: es₂) tail))
    (ht : Table.parse statement = .ok t) :
    ∃ before c behind, IsColumn e c [.rightParen] ∧ t.columns = before ++ c :: behind
      ∧ ∀ statement' xs, Spells statement' (listing head (es₁ ++ (e ++ xs) :: es₂) tail) →
        (∀ c' actions, EndsInReference e c' → AreActions xs actions →
          (Table.parse statement' = .ok t ↔ ∀ action ∈ actions, action.effect.isSkipped = true)
          ∧ ((∀ action ∈ actions, action.effect ≠ .setDefault) → Table.parse statement' = .ok
            { t with columns := before ++ { c with
              constraints := c.constraints ++ constraintsOf actions } :: behind }))
        ∧ (∀ c' actions event ys last, EndsInReference e c' → AreActions ys actions →
          (∀ action ∈ actions, action.effect ≠ .setDefault) → xs = ys ++ last →
          AreKeywords ["ON", RowEvent.keyword event, "SET", "DEFAULT"] (solidTokens last) →
          ∀ t', Table.parse statement' ≠ .ok t')
        ∧ ∀ d, IsIdentity xs d → Table.parse statement' = .ok
            { t with columns := before ++ { c with
              constraints := c.constraints ++ d.toList } :: behind } := by
  rw [Table.parse_of_spells hspells] at ht
  obtain ⟨before, c, behind, hcolumn, hcolumns, hreplace⟩ :=
    Table.ofLexemes_replace_column hhead hparts he ht
  refine ⟨before, c, behind, hcolumn, hcolumns, fun statement' xs hspells' => ?_⟩
  rw [Table.parse_of_spells hspells']
  have hreplace' (hxs : Closed (solidTokens xs)) :=
    hreplace (e ++ xs) (hcolumn.isPart.append hxs)
      ((hcolumn.isPart.startsTableConstraint_append xs).trans he)
  have hsame {c' : Column} : t = { t with columns := before ++ c' :: behind } ↔ c = c' := by
    obtain ⟨name, columns⟩ := t
    subst hcolumns
    simp
  refine ⟨?_, ?_, ?_⟩
  · intro c' actions hend hactions
    obtain rfl := hcolumn.unique (hend.isColumn hactions.ahead)
    constructor
    · rw [hreplace' hactions.closed, ← hend.isColumn_actions_iff hactions]
      simp only [hsame]
      exact exists_eq_right'
    · intro hdefault
      exact (hreplace' hactions.closed _).mpr ⟨_, hend.isColumn_actions hactions hdefault, rfl⟩
  · rintro c' actions event ys last hend hactions hdefault rfl hlast t' ht'
    obtain ⟨d, hd, -⟩ := (hreplace' (hactions.set_default hlast).closed t').mp ht'
    exact hend.not_isColumn_set_default hactions hdefault hlast d hd
  · intro d hd
    exact (hreplace' hd.closed _).mpr ⟨_, hcolumn.identity hd, rfl⟩

namespace Sample

/-- A column with a reference. -/
def referring : List Lexeme :=
  words ["a", "int", "REFERENCES", "u"] ++ [opening, word "id", closing]

/-- An action that is skipped. -/
def cascading : List Lexeme := Written.space :: words ["ON", "DELETE", "CASCADE"]

theorem endsInReference_referring : EndsInReference referring
    ⟨"a".toList, "int".toList, [.references "u".toList (some "id".toList)]⟩ := by
  have htype : IsType (solidTokens [Written.space, word "int"]) ["int".toList]
      (.word "REFERENCES".toList false :: .word "u".toList false ::
        [.leftParen, .word "id".toList false, .rightParen, .rightParen]) := by
    refine .words (.cons (by decide) .nil) (List.cons_ne_nil _ _) (ahead_cons.mpr ⟨?_, nofun⟩)
    exact fun _ => by decide
  have hgroup : IsGroup [.leftParen, .word "id".toList false, .rightParen] :=
    ⟨[.word "id".toList false], rfl, rfl⟩
  have hname : solidTokens [word "a"] = [.word "a".toList false] := rfl
  have hcolumn := IsColumn.intro hname htype (.nil (rfl : solidTokens [] = []))
  have hclause : solidTokens (Written.space :: words ["REFERENCES", "u"] ++
      [opening, word "id", closing]) = .word "REFERENCES".toList false ::
        ([.word "u".toList false] ++ [.leftParen, .word "id".toList false, .rightParen]) := rfl
  exact .intro hcolumn hclause (by decide) (.column (.word _ _) hgroup)

end Sample

theorem Table.parse_trailing_cascade :
    Table.parse "CREATE TABLE IF NOT EXISTS s.t (a int REFERENCES u(id) ON DELETE CASCADE)".toList
      = .ok ⟨"t".toList, [⟨"a".toList, "int".toList, [.references "u".toList (some "id".toList)]⟩]⟩ := by
  have hparts : ∀ e ∈ [] ++ Sample.referring :: [], IsPart e := by
    rw [List.nil_append, List.forall_mem_singleton]
    exact ⟨by decide, by decide⟩
  have hspells : Spells "CREATE TABLE IF NOT EXISTS s.t (a int REFERENCES u(id))".toList
      (listing Sample.head ([] ++ Sample.referring :: []) []) := by
    decide +kernel
  have hspells' : Spells
      "CREATE TABLE IF NOT EXISTS s.t (a int REFERENCES u(id) ON DELETE CASCADE)".toList
      (listing Sample.head ([] ++ (Sample.referring ++ Sample.cascading) :: []) []) := by
    decide +kernel
  have hactions : AreActions (Sample.cascading ++ []) [⟨.delete, .cascade⟩] :=
    .cons (.cons (by decide) (.cons (by decide) (.cons (by decide) .nil))) (.nil rfl)
  obtain ⟨_, _, _, -, -, htrailing⟩ := Table.parse_trailing Sample.isHead_head hparts (by decide)
    hspells (t := ⟨"t".toList, [⟨"a".toList, "int".toList,
      [.references "u".toList (some "id".toList)]⟩]⟩) (by decide +kernel)
  have hread := (htrailing _ _ hspells').1 _ _ Sample.endsInReference_referring hactions
  exact hread.1.mpr (by decide)

/-- The keyword of `SET NULL` is a constraint, that of `SET DEFAULT` is one without a value,
and that of an identity by default is one with the words behind it as value. -/
theorem Table.parse_set_null :
    Table.parse "CREATE TABLE IF NOT EXISTS t (a int REFERENCES u (id))".toList
        = .ok ⟨"t".toList, [⟨"a".toList, "int".toList,
          [.references "u".toList (some "id".toList)]⟩]⟩
      ∧ Table.parse "CREATE TABLE IF NOT EXISTS t (a int REFERENCES u (id) ON DELETE SET NULL)".toList
        = .ok ⟨"t".toList, [⟨"a".toList, "int".toList,
          [.references "u".toList (some "id".toList), .null]⟩]⟩
      ∧ (∀ t, Table.parse "CREATE TABLE IF NOT EXISTS t (a int REFERENCES u (id) ON DELETE SET DEFAULT)".toList
        ≠ .ok t)
      ∧ Table.parse "CREATE TABLE IF NOT EXISTS t (a int)".toList
        = .ok ⟨"t".toList, [⟨"a".toList, "int".toList, []⟩]⟩
      ∧ Table.parse "CREATE TABLE IF NOT EXISTS t (a int GENERATED BY DEFAULT AS IDENTITY)".toList
        = .ok ⟨"t".toList, [⟨"a".toList, "int".toList, [.default "AS IDENTITY".toList]⟩]⟩ := by
  refine ⟨by decide +kernel, by decide +kernel, ?_, by decide +kernel, by decide +kernel⟩
  have hfault : (Table.parse
      "CREATE TABLE IF NOT EXISTS t (a int REFERENCES u (id) ON DELETE SET DEFAULT)".toList).isOk
      = false := by
    decide +kernel
  intro t ht
  rw [ht] at hfault
  cases hfault

end TableScaffold
