import TableScaffold.Proofs.Table.Written

set_option autoImplicit false

/-!
# Tokens within parentheses

A part of a column list is closed: its parentheses are balanced, and its commas
stand within them (`Closed`).  So where the next token is a comma or a closing
parenthesis, the part is told apart from what is behind it (`Closed.append_inj`).
-/

namespace TableScaffold.Grammar

open Sql (Token)
open Written (parenDepth)

variable {d e : Nat} {t : Token} {ts us vs : List Token}

/-! ## Open groups -/

theorem parenDepth_cons (d : Nat) (t : Token) (ts : List Token) :
    parenDepth d (t :: ts) = (parenDepth d [t]).bind fun e => parenDepth e ts := by
  cases t with
  | rightParen => cases d <;> rfl
  | _ => rfl

theorem parenDepth_cons_of_ne (hleft : t ≠ .leftParen) (hright : t ≠ .rightParen) (d : Nat)
    (ts : List Token) : parenDepth d (t :: ts) = parenDepth d ts := by
  cases t with
  | leftParen => exact absurd rfl hleft
  | rightParen => exact absurd rfl hright
  | _ => rfl

theorem parenDepth_append (d : Nat) (us vs : List Token) :
    parenDepth d (us ++ vs) = (parenDepth d us).bind fun e => parenDepth e vs := by
  induction us generalizing d with
  | nil => rfl
  | cons t us ih =>
    rw [List.cons_append, parenDepth_cons, parenDepth_cons d t us, Option.bind_assoc]
    simp only [ih]

theorem parenDepth_append_of_eq (h : parenDepth d us = some e) (vs : List Token) :
    parenDepth d (us ++ vs) = parenDepth e vs := by
  rw [parenDepth_append, h]
  rfl

/-- More open groups in front stay open. -/
theorem parenDepth_add (h : parenDepth d ts = some e) (k : Nat) :
    parenDepth (d + k) ts = some (e + k) := by
  induction ts generalizing d with
  | nil =>
    obtain rfl := Option.some.inj h
    rfl
  | cons t ts ih =>
    cases t with
    | leftParen =>
      rw [parenDepth, Nat.add_right_comm]
      exact ih h
    | rightParen =>
      cases d with
      | zero => cases h
      | succ d =>
        rw [Nat.add_right_comm]
        exact ih h
    | _ => exact ih h

/-- Where a group is open and is closed in the end, there is a first parenthesis that
closes it. -/
theorem exists_close (h : parenDepth (d + 1) ts = some 0) :
    ∃ inner more, ts = inner ++ .rightParen :: more ∧ parenDepth d inner = some 0
      ∧ parenDepth 0 more = some 0 := by
  induction ts generalizing d with
  | nil => cases h
  | cons t ts ih =>
    cases t with
    | leftParen =>
      obtain ⟨inner, more, rfl, hinner, hmore⟩ := ih h
      exact ⟨.leftParen :: inner, more, rfl, hinner, hmore⟩
    | rightParen =>
      cases d with
      | zero => exact ⟨[], ts, rfl, rfl, h⟩
      | succ d =>
        obtain ⟨inner, more, rfl, hinner, hmore⟩ := ih h
        exact ⟨.rightParen :: inner, more, rfl, hinner, hmore⟩
    | _ =>
      obtain ⟨inner, more, rfl, hinner, hmore⟩ := ih h
      exact ⟨_ :: inner, more, rfl, hinner, hmore⟩

/-! ## Groups -/

/-- Tokens in parentheses. -/
def IsGroup (ts : List Token) : Prop :=
  ∃ inner, ts = .leftParen :: inner ++ [.rightParen] ∧ parenDepth 0 inner = some 0

theorem IsGroup.parenDepth (h : IsGroup ts) : parenDepth d ts = some d := by
  obtain ⟨inner, rfl, hinner⟩ := h
  have hopen : Written.parenDepth (d + 1) inner = some (d + 1) := by
    simpa using parenDepth_add hinner (d + 1)
  rw [List.cons_append, Written.parenDepth, parenDepth_append_of_eq hopen]
  rfl

/-! ## Closed parts -/

/-- Tokens that are balanced in parentheses, with no comma outside of them. -/
structure Closed (ts : List Token) : Prop where
  balanced : parenDepth 0 ts = some 0
  commas : ∀ before behind, ts = before ++ .comma :: behind → parenDepth 0 before ≠ some 0

theorem closed_iff_commas_take : Closed ts ↔ parenDepth 0 ts = some 0
    ∧ ∀ n < ts.length, ts[n]? = some .comma → parenDepth 0 (ts.take n) ≠ some 0 := by
  constructor
  · intro h
    refine ⟨h.balanced, fun n hn hcomma => h.commas (ts.take n) (ts.drop (n + 1)) ?_⟩
    rw [List.getElem?_eq_getElem hn] at hcomma
    rw [← Option.some.inj hcomma, ← List.drop_eq_getElem_cons hn, List.take_append_drop]
  · rintro ⟨hbalanced, hcommas⟩
    refine ⟨hbalanced, ?_⟩
    rintro before behind rfl
    simpa using hcommas before.length (by simp) (by simp)

instance (ts : List Token) : Decidable (Closed ts) :=
  decidable_of_iff _ closed_iff_commas_take.symm

/-- A token that neither opens nor closes a group nor separates. -/
def IsPlain (t : Token) : Prop := t ≠ .leftParen ∧ t ≠ .rightParen ∧ t ≠ .comma

theorem IsPlain.parenDepth (h : IsPlain t) : parenDepth d [t] = some d := by
  cases t with
  | leftParen => exact absurd rfl h.1
  | rightParen => exact absurd rfl h.2.1
  | _ => rfl

/-- A token at which a part of a column list ends. -/
def IsEnd (t : Token) : Prop := t = .comma ∨ t = .rightParen

instance : DecidablePred IsEnd := fun t => inferInstanceAs (Decidable (t = .comma ∨ _))

theorem isEnd_comma : IsEnd .comma := .inl rfl

theorem isEnd_rightParen : IsEnd .rightParen := .inr rfl

namespace Closed

theorem nil : Closed [] := ⟨rfl, by simp⟩

theorem append (hu : Closed us) (hv : Closed vs) : Closed (us ++ vs) where
  balanced := (parenDepth_append_of_eq hu.balanced vs).trans hv.balanced
  commas := by
    intro before behind h
    -- the comma stands in the one part or in the other
    rcases List.append_eq_append_iff.mp h with ⟨more, rfl, hbehind⟩ | ⟨more, rfl, hbehind⟩
    · rw [parenDepth_append_of_eq hu.balanced]
      exact hv.commas more behind hbehind
    · cases more with
      | nil =>
        exact absurd rfl (hv.commas [] behind hbehind.symm)
      | cons t more =>
        obtain ⟨rfl, rfl⟩ := List.cons.inj hbehind
        exact hu.commas before more rfl

/-- What is behind a balanced front of a closed part is closed. -/
theorem of_append (h : Closed (us ++ vs)) (hu : parenDepth 0 us = some 0) : Closed vs where
  balanced := (parenDepth_append_of_eq hu vs).symm.trans h.balanced
  commas := by
    rintro before behind rfl
    rw [← parenDepth_append_of_eq hu]
    exact h.commas (us ++ before) behind (List.append_assoc _ _ _).symm

theorem of_cons (h : Closed (t :: ts)) (ht : IsPlain t) : Closed ts := by
  rw [← List.singleton_append] at h
  exact h.of_append ht.parenDepth

theorem singleton (h : IsPlain t) : Closed [t] where
  balanced := h.parenDepth
  commas := by
    intro before behind heq
    cases before with
    | nil => exact absurd (List.cons.inj heq).1 h.2.2
    | cons u before => simp at heq

theorem cons (h : IsPlain t) (hts : Closed ts) : Closed (t :: ts) := (singleton h).append hts

theorem group (h : IsGroup ts) : Closed ts where
  balanced := h.parenDepth
  commas := by
    obtain ⟨inner, rfl, hinner⟩ := h
    intro before behind heq
    cases before with
    | nil => cases heq
    | cons u before =>
      rw [List.cons_append, List.cons_append] at heq
      obtain ⟨rfl, htail⟩ := List.cons.inj heq
      -- in front of the closing parenthesis the group is open
      intro hzero
      obtain ⟨more, rest, hbefore, hopen, -⟩ := exists_close (d := 0) hzero
      rcases List.append_eq_append_iff.mp htail with ⟨as, h₁, h₂⟩ | ⟨as, h₁, h₂⟩
      · cases as with
        | nil => cases h₂
        | cons a as => simp at h₂
      · rw [h₁, hbefore, List.append_assoc, parenDepth_append_of_eq hopen] at hinner
        cases hinner

/-- No token of a closed part outside of its groups ends it. -/
theorem not_isEnd_of_append (h : Closed (us ++ t :: vs)) (hu : parenDepth 0 us = some 0) :
    ¬ IsEnd t := by
  rintro (rfl | rfl)
  · exact h.commas us vs rfl hu
  · have hbalanced := h.balanced
    rw [parenDepth_append_of_eq hu] at hbalanced
    cases hbalanced

theorem not_isEnd_of_cons (h : Closed (t :: vs)) : ¬ IsEnd t := by
  rw [← List.nil_append (t :: vs)] at h
  exact h.not_isEnd_of_append rfl

/-- A closed part ends at the first comma or closing parenthesis outside of its groups. -/
theorem append_inj {u v : Token} {us' vs' : List Token} (hus : Closed us) (hvs : Closed vs)
    (hu : IsEnd u) (hv : IsEnd v) (h : us ++ u :: us' = vs ++ v :: vs') : us = vs := by
  rcases List.append_eq_append_iff.mp h with ⟨more, rfl, hmore⟩ | ⟨more, rfl, hmore⟩
  · cases more with
    | nil => exact (List.append_nil us).symm
    | cons w more =>
      obtain ⟨rfl, -⟩ := List.cons.inj hmore
      exact absurd hu (hvs.not_isEnd_of_append hus.balanced)
  · cases more with
    | nil => exact List.append_nil vs
    | cons w more =>
      obtain ⟨rfl, -⟩ := List.cons.inj hmore
      exact absurd hv (hus.not_isEnd_of_append hvs.balanced)

end Closed

end TableScaffold.Grammar
