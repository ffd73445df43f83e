import TableScaffold.Table.Grammar

set_option autoImplicit false

/-!
# Readers that see one token ahead

A reader is viable (`Viable`) if where it stops, and with which fault, is settled by
the tokens it used and the one that comes next, and if the tokens it used, whenever
it comes to the end of all tokens, are the beginning of something it reads.  Viable
readers are put together from smaller ones (`Viable.cons`, `Viable.andThen`).  A fault
of such a reader is found at the first token that nothing can mend
(`Viable.used_left`, `Viable.along`).
-/

namespace TableScaffold.Grammar

open Sql (Placed Token)

/-! ## Where readers stop -/

/-- Where a reader stopped: the fault it found, if any, and the tokens it left. -/
structure Halt where
  fault : Option GrammarFault
  left : List Placed

/-- Where a reader that answers only the tokens it left stopped. -/
def halt : Except Failure (List Placed) → Halt
  | .ok left => ⟨none, left⟩
  | .error (fault, left) => ⟨some fault, left⟩

/-- Where a reader stopped, whatever it read. -/
def haltRead {α : Type} (x : Result α) : Halt :=
  halt (x.map Prod.snd)

/-- Goes on with the tokens that were left, unless there was a fault. -/
def Halt.andThen (h : Halt) (next : List Placed → Halt) : Halt :=
  match h.fault with
  | none => next h.left
  | some _ => h

/-! ## Tokens that go along with others -/

/-- The tokens `ts'` go along with `ts` as far as `left`: the same tokens stand in
front of `left` and of `left'`, and the same token comes next.  Their places do not
matter. -/
inductive Along (left left' : List Placed) : List Placed → List Placed → Prop where
  | here (hnext : left.head?.map Placed.token = left'.head?.map Placed.token) :
      Along left left' left left'
  | there {t t' : Placed} {r r' : List Placed} (ht : t.token = t'.token)
      (htail : Along left left' r r') : Along left left' (t :: r) (t' :: r')

namespace Along

variable {left left' mid ts ts' : List Placed}

theorem exists_append (h : Along left left' ts ts') : ∃ used used', ts = used ++ left
    ∧ ts' = used' ++ left' ∧ used.map Placed.token = used'.map Placed.token := by
  induction h with
  | here => exact ⟨[], [], rfl, rfl, rfl⟩
  | @there t t' _ _ ht _ ih =>
    obtain ⟨used, used', rfl, rfl, hused⟩ := ih
    refine ⟨t :: used, t' :: used', rfl, rfl, ?_⟩
    rw [List.map_cons, List.map_cons, ht, hused]

theorem next (h : Along left left' ts ts') :
    ts.head?.map Placed.token = ts'.head?.map Placed.token := by
  cases h with
  | here hnext => exact hnext
  | there ht _ => exact congrArg some ht

theorem eq_of_self (h : Along left left' left ts') : ts' = left' := by
  obtain ⟨used, used', hself, rfl, hused⟩ := h.exists_append
  obtain rfl : used = [] := List.self_eq_append_left.mp hself
  obtain rfl : used' = [] := List.map_eq_nil_iff.mp hused.symm
  rfl

theorem tail {t : Placed} {r : List Placed} (h : Along left left' (t :: r) ts')
    (hleft : left <:+ r) :
    ∃ t' r', ts' = t' :: r' ∧ t'.token = t.token ∧ Along left left' r r' := by
  cases h with
  | here =>
    have hlength := hleft.length_le
    simp only [List.length_cons] at hlength
    omega
  | there ht htail => exact ⟨_, _, rfl, ht.symm, htail⟩

/-- Tokens that go along go along up to any place on the way, and from there. -/
theorem through (h : Along left left' ts ts') (hleft : left <:+ mid) (hmid : mid <:+ ts) :
    ∃ mid', Along mid mid' ts ts' ∧ Along left left' mid mid' := by
  obtain ⟨used, rfl⟩ := hmid
  induction used generalizing ts' with
  | nil => exact ⟨ts', .here h.next, h⟩
  | cons t used ih =>
    obtain ⟨t', r', rfl, ht, htail⟩ := h.tail (hleft.trans (List.suffix_append used mid))
    obtain ⟨mid', hfront, hback⟩ := ih htail
    exact ⟨mid', .there ht.symm hfront, hback⟩

/-- Tokens go along with themselves when more tokens are put behind them. -/
theorem append (hne : left ≠ []) (hleft : left <:+ ts) (more : List Placed) :
    Along left (left ++ more) ts (ts ++ more) := by
  obtain ⟨used, rfl⟩ := hleft
  induction used with
  | nil =>
    obtain ⟨t, r, rfl⟩ := List.exists_cons_of_ne_nil hne
    exact .here rfl
  | cons t used ih => exact .there rfl ih

/-- Tokens that begin with the first tokens of others go along with them. -/
theorem of_prefix {k : Nat} (hk : k < ts.length)
    (h : (ts.map Placed.token).take (k + 1) <+: ts'.map Placed.token) :
    ∃ left', Along (ts.drop k) left' ts ts' := by
  induction k generalizing ts ts' with
  | zero =>
    obtain ⟨t, r, rfl⟩ := List.exists_cons_of_length_pos hk
    obtain ⟨more, hmore⟩ := h
    refine ⟨ts', .here ?_⟩
    rw [← List.head?_map, ← List.head?_map, ← hmore]
    rfl
  | succ k ih =>
    obtain ⟨t, r, rfl⟩ := List.exists_cons_of_length_pos (Nat.zero_lt_of_lt hk)
    obtain ⟨more, hmore⟩ := h
    obtain ⟨t', r', rfl, ht, hr⟩ := List.map_eq_cons_iff.mp hmore.symm
    obtain ⟨left', htail⟩ := ih (Nat.lt_of_succ_lt_succ hk) ⟨more, hr.symm⟩
    exact ⟨left', .there ht.symm htail⟩

end Along

/-! ## Viable readers -/

/-- Tokens without blanks. -/
def NoBlanks (ts : List Placed) : Prop :=
  ∀ t ∈ ts, t.token ≠ .blank

/-- A reader is viable on tokens: it leaves some of them, it does the same on all tokens
that go along as far as that, and if it leaves none, then more tokens can be put
behind them such that it reads all and stops in front of what `follows`. -/
structure Viable (follows : List Placed → Prop) (read : Text → List Placed → Halt)
    (source : Text) (ts : List Placed) : Prop where
  suffix : (read source ts).left <:+ ts
  along : ∀ {source' : Text} {left' ts' : List Placed},
    Along (read source ts).left left' ts ts' → read source' ts' = ⟨(read source ts).fault, left'⟩
  completes : (read source ts).left = [] → ∃ more, NoBlanks more
    ∧ ∀ source' rest, follows rest → read source' (ts ++ (more ++ rest)) = ⟨none, rest⟩

namespace Viable

variable {follows : List Placed → Prop} {read next : Text → List Placed → Halt} {source : Text}
  {t : Placed} {r ts : List Placed}

/-- A reader that stops at the end of all tokens. -/
theorem nil (fault : Option GrammarFault) (hread : ∀ source', read source' [] = ⟨fault, []⟩)
    (hmore : ∃ more, NoBlanks more
      ∧ ∀ source' rest, follows rest → read source' (more ++ rest) = ⟨none, rest⟩) :
    Viable follows read source [] where
  suffix := ⟨[], congrArg Halt.left (hread source)⟩
  along := by
    rw [hread]
    intro source' left' ts' halong
    obtain rfl := halong.eq_of_self
    obtain rfl : ts' = [] := by simpa using halong.next.symm
    exact hread source'
  completes _ := hmore

/-- A reader that has read all at the end of all tokens, and reads nothing of what
follows. -/
theorem nil_idle (hread : ∀ source', read source' [] = ⟨none, []⟩)
    (hfollows : ∀ source' rest, follows rest → read source' rest = ⟨none, rest⟩) :
    Viable follows read source [] :=
  nil none hread ⟨[], List.forall_mem_nil _, hfollows⟩

/-- A reader that stops in front of a token. -/
theorem stop (fault : Option GrammarFault) (hread : ∀ source' t' r', t'.token = t.token →
    read source' (t' :: r') = ⟨fault, t' :: r'⟩) : Viable follows read source (t :: r) where
  suffix := ⟨[], congrArg Halt.left (hread source t r rfl)⟩
  along := by
    rw [hread source t r rfl]
    intro source' left' ts' halong
    obtain rfl := halong.eq_of_self
    obtain ⟨t', ht', hnext⟩ := Option.map_eq_some_iff.mp halong.next.symm
    obtain ⟨r', rfl⟩ := List.head?_eq_some_iff.mp ht'
    exact hread source' t' r' hnext
  completes h := by
    rw [hread source t r rfl] at h
    cases h

/-- A reader that has read all there is to read. -/
theorem idle : Viable follows (fun _ ts => ⟨none, ts⟩) source ts where
  suffix := List.suffix_rfl
  along halong := by rw [halong.eq_of_self]
  completes h := by
    obtain rfl : ts = [] := h
    exact ⟨[], List.forall_mem_nil _, fun _ _ _ => rfl⟩

/-- A reader that goes on as another one does behind the first token. -/
theorem cons (hread : ∀ source' t' r', t'.token = t.token →
    read source' (t' :: r') = next source' r') (h : Viable follows next source r) :
    Viable follows read source (t :: r) where
  suffix := by
    rw [hread source t r rfl]
    exact h.suffix.trans (List.suffix_cons t r)
  along := by
    rw [hread source t r rfl]
    intro source' left' ts' halong
    obtain ⟨t', r', rfl, ht, htail⟩ := halong.tail h.suffix
    rw [hread source' t' r' ht]
    exact h.along htail
  completes hnil := by
    rw [hread source t r rfl] at hnil
    obtain ⟨more, hmore, hrest⟩ := h.completes hnil
    refine ⟨more, hmore, fun source' rest hfollows => ?_⟩
    rw [List.cons_append, hread source' t _ rfl]
    exact hrest source' rest hfollows

/-- A reader that does as another one on tokens that begin alike. -/
theorem like (hread : ∀ source' t' r', t'.token = t.token →
    read source' (t' :: r') = next source' (t' :: r')) (h : Viable follows next source (t :: r)) :
    Viable follows read source (t :: r) where
  suffix := by
    rw [hread source t r rfl]
    exact h.suffix
  along := by
    rw [hread source t r rfl]
    intro source' left' ts' halong
    obtain ⟨t', ht', hnext⟩ := Option.map_eq_some_iff.mp halong.next.symm
    obtain ⟨r', rfl⟩ := List.head?_eq_some_iff.mp ht'
    rw [hread source' t' r' hnext]
    exact h.along halong
  completes hnil := by
    rw [hread source t r rfl] at hnil
    obtain ⟨more, hmore, hrest⟩ := h.completes hnil
    refine ⟨more, hmore, fun source' rest hfollows => ?_⟩
    rw [List.cons_append, hread source' t _ rfl]
    exact hrest source' rest hfollows

/-- Two readers one after the other.  What the second one needs at least must be
something that may follow the first one. -/
theorem andThen {follows' : List Placed → Prop} (h : Viable follows read source ts)
    (hnext : (read source ts).fault = none → Viable follows' next source (read source ts).left)
    (hleast : ∃ more, NoBlanks more ∧ ∀ source' rest, follows' rest →
      follows (more ++ rest) ∧ next source' (more ++ rest) = ⟨none, rest⟩) :
    Viable follows' (fun source ts => (read source ts).andThen (next source)) source ts := by
  -- at the end of all tokens the first reader is completed, and behind it the second one
  have hend (hnil : (read source ts).left = []) : ∃ more, NoBlanks more ∧ ∀ source' rest,
      follows' rest → (read source' (ts ++ (more ++ rest))).andThen (next source') = ⟨none, rest⟩ := by
    obtain ⟨more, hmore, hread⟩ := h.completes hnil
    obtain ⟨least, hblanks, hleast⟩ := hleast
    refine ⟨more ++ least, List.forall_mem_append.mpr ⟨hmore, hblanks⟩, ?_⟩
    intro source' rest hfollows
    obtain ⟨hfirst, hsecond⟩ := hleast source' rest hfollows
    rw [List.append_assoc, hread source' (least ++ rest) hfirst]
    exact hsecond
  cases hfault : (read source ts).fault with
  | some fault =>
    have hread : (read source ts).andThen (next source) = read source ts := by
      rw [Halt.andThen, hfault]
    refine ⟨?_, ?_, ?_⟩
    · rw [hread]
      exact h.suffix
    · rw [hread]
      intro source' left' ts' halong
      rw [h.along halong, hfault]
      rfl
    · rw [hread]
      exact hend
  | none =>
    have hread : (read source ts).andThen (next source) = next source (read source ts).left := by
      rw [Halt.andThen, hfault]
    replace hnext := hnext hfault
    refine ⟨?_, ?_, ?_⟩
    · rw [hread]
      exact hnext.suffix.trans h.suffix
    · rw [hread]
      intro source' left' ts' halong
      obtain ⟨mid', hfront, hback⟩ := halong.through hnext.suffix h.suffix
      rw [h.along hfront, hfault]
      exact hnext.along hback
    · rw [hread]
      intro hnil
      by_cases hmid : (read source ts).left = []
      · exact hend hmid
      · obtain ⟨more, hmore, hrest⟩ := hnext.completes hnil
        refine ⟨more, hmore, fun source' rest hfollows => ?_⟩
        rw [h.along (Along.append hmid h.suffix (more ++ rest)), hfault]
        exact hrest source' rest hfollows

/-- Two readers one after the other, of which the second one reads nothing of what
follows. -/
theorem andThen_idle {follows' : List Placed → Prop} (h : Viable follows read source ts)
    (hnext : (read source ts).fault = none → Viable follows' next source (read source ts).left)
    (hfollows : ∀ rest, follows' rest → follows rest)
    (hidle : ∀ source' rest, follows' rest → next source' rest = ⟨none, rest⟩) :
    Viable follows' (fun source ts => (read source ts).andThen (next source)) source ts := by
  refine h.andThen hnext ⟨[], List.forall_mem_nil _, ?_⟩
  intro source' rest hrest
  exact ⟨hfollows rest hrest, hidle source' rest hrest⟩

/-- On the tokens it used before it stopped, a viable reader comes to their end. -/
theorem used_left {used left : List Placed} (h : Viable follows read source used)
    (hleft : (read source (used ++ left)).left = left) : (read source used).left = [] := by
  apply Classical.byContradiction
  intro hne
  rw [h.along (Along.append hne h.suffix left)] at hleft
  exact hne (List.append_left_eq_self.mp hleft)

end Viable

end TableScaffold.Grammar
