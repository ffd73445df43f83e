import TableScaffold.Proofs.Table.Listing
import TableScaffold.Proofs.Table.Viable

set_option autoImplicit false

/-!
# Where the fault of a malformed table is found

A malformed table is reported at the earliest token that makes it one: what stands in
front of that token is the beginning of a table that is well-formed, and no tokens that
begin so and go on with that one define a table
(`Table.malformed_at_earliest_token`).  Where the tokens end too soon, the report is
about the end of the last one.
-/

namespace TableScaffold

open Grammar
open Sql (Lexeme Placed Token textOf)
open Written (solid)

namespace Grammar

/-! ## Headers -/

/-- Whether keywords stand in front is told by as many tokens, wherever they are. -/
theorem afterKeywords?_same {keywords : List Text} {used used' rest : List Placed}
    (hsame : used.map Placed.token = used'.map Placed.token)
    (hlength : keywords.length ≤ used.length) (h : afterKeywords? keywords (used ++ rest) = none)
    (rest' : List Placed) : afterKeywords? keywords (used' ++ rest') = none := by
  induction keywords generalizing used used' with
  | nil => cases h
  | cons keyword keywords ih =>
    obtain ⟨t, used, rfl⟩ := List.exists_cons_of_length_pos (Nat.zero_lt_of_lt hlength)
    obtain ⟨t', used', rfl, ht, hused⟩ := List.map_eq_cons_iff.mp hsame.symm
    rw [List.cons_append, afterKeywords?, afterKeyword?] at h ⊢
    rw [ht]
    cases hkeyword : t.token.isKeyword keyword with
    | false => rfl
    | true =>
      rw [hkeyword] at h
      exact ih hused.symm (Nat.le_of_succ_le_succ hlength) h

/-- Where the first header ends is told by the tokens up to there, wherever they are. -/
theorem afterHeader?_same {used used' rest : List Placed}
    (hsame : used.map Placed.token = used'.map Placed.token)
    (h : afterHeader? (used ++ rest) = some rest) (rest' : List Placed) :
    afterHeader? (used' ++ rest') = some rest' := by
  induction used generalizing used' with
  | nil =>
    obtain ⟨before, header, hrest, hheader⟩ := exists_header h
    obtain ⟨-, rfl⟩ := List.append_eq_nil_iff.mp (List.self_eq_append_left.mp hrest)
    cases hheader
  | cons t used ih =>
    obtain ⟨t', used', rfl, ht, hused⟩ := List.map_eq_cons_iff.mp hsame.symm
    rw [List.cons_append, afterHeader?] at h
    split at h
    · next hkeywords =>
      cases h
      obtain ⟨header, hsplit, hheader⟩ := afterKeywords?_eq_some.mp hkeywords
      obtain rfl : t :: used = header := List.append_cancel_right hsplit
      rw [hsame] at hheader
      exact afterHeader?_append hheader
    · next hkeywords =>
      -- a header stands further on, so the keywords would have ended in front of the rest
      obtain ⟨before, header, hsplit, hheader⟩ := exists_header h
      obtain rfl : used = before ++ header := List.append_cancel_right hsplit
      have hlength : headerKeywords.length ≤ (t :: (before ++ header)).length := by
        rw [hheader.length_eq, List.length_map, List.length_cons, List.length_append]
        omega
      rw [List.cons_append, afterHeader?, ← List.cons_append,
        afterKeywords?_same hsame hlength hkeywords rest']
      exact ih hused.symm h

/-! ## Behind the header -/

section Body

variable {source : Text} {fault : GrammarFault} {left used : List Placed}

theorem haltRead_error {α : Type} {x : Result α} (h : x = .error (fault, left)) :
    haltRead x = ⟨some fault, left⟩ := by
  rw [h]
  rfl

/-- What was read before a fault is the beginning of a table. -/
theorem exists_completion (h : table source (used ++ left) = .error (fault, left)) :
    ∃ more, NoBlanks more ∧ ∀ source', ∃ t, table source' (used ++ more) = .ok (t, []) := by
  have hviable : Viable (fun _ => True) (fun source ts => haltRead (table source ts)) source used :=
    table_viable used
  have hleft : (haltRead (table source (used ++ left))).left = left := by
    rw [haltRead_error h]
  have hend := hviable.used_left hleft
  obtain ⟨more, hmore, hread⟩ := hviable.completes hend
  refine ⟨more, hmore, fun source' => ?_⟩
  have hhalt := hread source' [] trivial
  rw [List.append_nil] at hhalt
  cases hresult : table source' (used ++ more) with
  | error e =>
    rw [hresult] at hhalt
    cases hhalt
  | ok p =>
    rw [hresult] at hhalt
    obtain ⟨t, rest⟩ := p
    obtain rfl : rest = [] := congrArg Halt.left hhalt
    exact ⟨t, rfl⟩

/-- What goes on with the token at which a fault was found has the same fault. -/
theorem table_along {body body' left' : List Placed} {source' : Text}
    (h : table source body = .error (fault, left)) (halong : Along left left' body body') :
    table source' body' = .error (fault, left') := by
  have hviable : Viable (fun _ => True) (fun source ts => haltRead (table source ts)) source body :=
    table_viable body
  have hhalt : haltRead (table source body) = ⟨some fault, left⟩ := haltRead_error h
  have hread : haltRead (table source' body') = ⟨some fault, left'⟩ := by
    rw [hviable.along (by rw [hhalt]; exact halong), hhalt]
  cases hresult : table source' body' with
  | error e =>
    rw [hresult] at hread
    obtain ⟨fault', rest⟩ := e
    cases hread
    rfl
  | ok p =>
    rw [hresult] at hread
    cases hread

end Body

end Grammar

/-! ## Malformed tables -/

/-- A place is where the `k`th of the tokens begins, or where the last one ends if `k` is
the number of them. -/
def IsPlaceOf (ts : List Placed) (k : Nat) (l : Location) : Prop :=
  (∃ t, ts[k]? = some t ∧ l = t.first)
    ∨ k = ts.length ∧ ∃ t, ts.getLast? = some t ∧ l = t.last

theorem isPlaceOf_faultLocation {used left : List Placed} (hne : used ≠ []) :
    IsPlaceOf (used ++ left) used.length (faultLocation (used ++ left) left) := by
  cases left with
  | nil =>
    refine .inr ⟨by rw [List.append_nil], used.getLast hne, ?_, ?_⟩
    · rw [List.append_nil, List.getLast?_eq_some_getLast hne]
    · rw [faultLocation, List.append_nil, List.getLast?_eq_some_getLast hne]
      rfl
  | cons t r =>
    refine .inl ⟨t, ?_, rfl⟩
    rw [List.getElem?_append_right (Nat.le_refl _), Nat.sub_self]
    rfl

/-- A malformed table has a header, and behind it tokens that were used before the fault
and those that were left. -/
theorem Table.exists_parts_of_malformed {source : Text} {ts : List Placed} {fault : GrammarFault}
    {l : Location} (h : Table.ofTokens source ts = .error (.malformed fault l)) :
    ∃ front used left, front ≠ [] ∧ ts = front ++ (used ++ left)
      ∧ afterHeader? (front ++ (used ++ left)) = some (used ++ left)
      ∧ table source (used ++ left) = .error (fault, left) ∧ l = faultLocation ts left := by
  rw [Table.ofTokens] at h
  split at h
  · cases h
  next body hbody =>
  split at h
  · cases h
  next left htable =>
  cases h
  obtain ⟨before, header, rfl, hheader⟩ := exists_header hbody
  have hviable : Viable (fun _ => True) (fun source ts => haltRead (table source ts)) source body :=
    table_viable body
  obtain ⟨used, rfl⟩ : left <:+ body := by
    simpa [haltRead_error htable] using hviable.suffix
  refine ⟨before ++ header, used, left, ?_, rfl, hbody, htable, rfl⟩
  intro hnil
  obtain ⟨-, rfl⟩ := List.append_eq_nil_iff.mp hnil
  cases hheader

/-- The place of a fault is that of the earliest token, the `k`th one, with which the
tokens cannot go on: those in front of it can be completed to a table, and whatever
begins with them and it is no table.  If no token is to blame, then all of them can be
completed, and the place is the end of the last one. -/
theorem Table.malformed_at_earliest_token {source : Text} {ts : List Placed}
    {fault : GrammarFault} {l : Location}
    (h : Table.ofTokens source ts = .error (.malformed fault l)) :
    0 < ts.length ∧ ∃ k ≤ ts.length, IsPlaceOf ts k l
      ∧ (∃ more, NoBlanks more
        ∧ ∀ source', ∃ t, Table.ofTokens source' (ts.take k ++ more) = .ok t)
      ∧ (k < ts.length → ∀ source' ts',
        (ts.map Placed.token).take (k + 1) <+: ts'.map Placed.token →
          ∀ t, Table.ofTokens source' ts' ≠ .ok t) := by
  obtain ⟨front, used, left, hfront, hts, hheader, htable, hl⟩ :=
    Table.exists_parts_of_malformed h
  have hsplit : ts = (front ++ used) ++ left := by
    rw [hts, List.append_assoc]
  have hne : front ++ used ≠ [] := List.append_ne_nil_of_left_ne_nil hfront used
  have hpos : 0 < (front ++ used).length := List.length_pos_of_ne_nil hne
  have hlength : ts.length = (front ++ used).length + left.length := by
    rw [hsplit, List.length_append]
  refine ⟨by omega, (front ++ used).length, by omega, ?_, ?_, ?_⟩
  · rw [hl, hsplit]
    exact isPlaceOf_faultLocation hne
  · obtain ⟨more, hmore, hread⟩ := exists_completion htable
    refine ⟨more, hmore, fun source' => ?_⟩
    obtain ⟨t, ht⟩ := hread source'
    refine ⟨t, ?_⟩
    rw [hsplit, List.take_left, List.append_assoc, Table.ofTokens, afterHeader?_same rfl hheader]
    simp only [ht]
  · intro hk source' ts' hprefix t hok
    obtain ⟨left', halong⟩ := Along.of_prefix hk hprefix
    rw [hsplit, List.drop_left, ← hsplit, hts] at halong
    obtain ⟨body', hhead, hbody'⟩ := halong.through (List.suffix_append used left)
      (List.suffix_append front (used ++ left))
    obtain ⟨front₁, front', hsame₁, rfl, hsame⟩ := hhead.exists_append
    obtain rfl := List.append_cancel_right hsame₁
    rw [Table.ofTokens, afterHeader?_same hsame hheader] at hok
    simp only [table_along htable hbody'] at hok
    cases hok

namespace Sample

/-- A definition without an opening parenthesis behind the table's name. -/
def unlisted : List Lexeme :=
  [⟨.word "CREATE".toList false, "CREATE".toList⟩, ⟨.blank, " ".toList⟩,
    ⟨.word "TABLE".toList false, "TABLE".toList⟩, ⟨.blank, " ".toList⟩,
    ⟨.word "IF".toList false, "IF".toList⟩, ⟨.blank, " ".toList⟩,
    ⟨.word "NOT".toList false, "NOT".toList⟩, ⟨.blank, " ".toList⟩,
    ⟨.word "EXISTS".toList false, "EXISTS".toList⟩, ⟨.blank, " ".toList⟩,
    ⟨.word "branch".toList true, "\"branch\"".toList⟩, ⟨.blank, "\n  ".toList⟩,
    ⟨.word "id".toList true, "\"id\"".toList⟩, ⟨.blank, " ".toList⟩,
    ⟨.word "uuid".toList false, "uuid".toList⟩]

end Sample

theorem Table.malformed_at_earliest_token_unlisted :
    Table.ofTokens (textOf Sample.unlisted) (solid Location.start Sample.unlisted)
        = .error (.malformed .expectedColumnList ⟨2, 3⟩)
      ∧ ∃ k ≤ (solid Location.start Sample.unlisted).length,
        IsPlaceOf (solid Location.start Sample.unlisted) k ⟨2, 3⟩
        ∧ ∃ more, NoBlanks more ∧ ∀ source', ∃ t,
          Table.ofTokens source' ((solid Location.start Sample.unlisted).take k ++ more) = .ok t := by
  have h : Table.ofTokens (textOf Sample.unlisted) (solid Location.start Sample.unlisted)
      = .error (.malformed .expectedColumnList ⟨2, 3⟩) := by
    decide
  obtain ⟨-, k, hk, hplace, hmore, -⟩ := Table.malformed_at_earliest_token h
  exact ⟨h, k, hk, hplace, hmore⟩

end TableScaffold
