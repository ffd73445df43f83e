import TableScaffold.Proofs.Cursor.Advance
import TableScaffold.Proofs.Cursor.Reading

set_option autoImplicit false

/-!
# A step of the cursor reads what the grammar reads

A step of the cursor does not change what comes of the definition (`Sound.answer_eq`).
Each kind of step is compared with the reader that reads the same tokens: if the step
moves on, the reader goes on behind the token, and if it gives up, so does the reader.
-/

namespace TableScaffold.Cursor

open Grammar
open Sql (Placed Token)

/-! ## What a step reads -/

section Step

variable {source : Text} {ts : List Placed} {s : State}

theorem answer_fail (fault : GrammarFault) :
    (s.fail fault).answer source ts = conclude ts (.error (fault, ts.drop s.pos)) := rfl

theorem headerStep_answer (hstart : s.pos = 0) : (headerStep ts s).answer source ts
    = headerAnswer source ts s.name s.columns (ts.drop s.pos) := by
  rw [hstart, List.drop_zero, headerAnswer, afterHeader?_eq, headerStep]
  cases behindHeader? ts <;> rfl

/-- A word is read, or else a fault is found there. -/
theorem wordStep_answer {next : Text → Point} {fault : GrammarFault}
    (reading : List Placed → Result Table) (hnil : reading [] = .error (fault, []))
    (hother : ∀ t r, t.token.isWord = false → reading (t :: r) = .error (fault, t :: r))
    (hword : ∀ t value quoted, t.token = .word value quoted →
      conclude ts (reading (t :: ts.drop (s.pos + 1))) = (s.move (next value)).answer source ts) :
    (wordStep ts s next fault).answer source ts = conclude ts (reading (ts.drop s.pos)) := by
  unfold wordStep word?
  rcases left_cases ts s.pos with ⟨htoken, hleft⟩ | ⟨t, -, htoken, hleft⟩
  · rw [htoken, hleft, hnil, ← hleft]
    rfl
  · rw [htoken, hleft]
    cases ht : t.token with
    | word value quoted => exact (hword t value quoted ht).symm
    | _ =>
      rw [hother t _ (by rw [ht]; rfl), ← hleft]
      rfl

theorem name_answer (of : NameOf) :
    (wordStep ts s (.behindName of) (.expectedName of.use)).answer source ts
      = conclude ts ((qualifiedName of.use (ts.drop s.pos)).bind fun p =>
        nameReading source s.name s.columns p.1 of p.2) := by
  refine wordStep_answer (fun left => (qualifiedName of.use left).bind fun p =>
    nameReading source s.name s.columns p.1 of p.2) rfl ?_ ?_
  · intro t r ht
    cases hw : t.token with
    | word => simp [hw, Token.isWord] at ht
    | _ => simp [qualifiedName, hw, Except.bind]
  · intro t value quoted ht
    simp only [qualifiedName, ht]
    rfl

theorem namePart_answer (of : NameOf) :
    (wordStep ts s (.behindName of) (.expectedNameAfterPeriod of.use)).answer source ts
      = conclude ts ((afterPeriod of.use (ts.drop s.pos)).bind fun p =>
        nameReading source s.name s.columns p.1 of p.2) := by
  refine wordStep_answer (fun left => (afterPeriod of.use left).bind fun p =>
    nameReading source s.name s.columns p.1 of p.2) rfl ?_ ?_
  · intro t r ht
    cases hw : t.token with
    | word => simp [hw, Token.isWord] at ht
    | _ => simp [afterPeriod, hw, Except.bind]
  · intro t value quoted ht
    simp only [afterPeriod, ht]
    rfl

theorem columnName_answer :
    (wordStep ts s (fun name => .typeWords { name := name } false) .expectedColumnName).answer
        source ts
      = conclude ts ((column source (ts.drop s.pos)).bind fun p =>
        separatorReading source s.name (s.columns ++ [p.1]) p.2) := by
  refine wordStep_answer (fun left => (column source left).bind fun p =>
    separatorReading source s.name (s.columns ++ [p.1]) p.2) rfl ?_ ?_
  · intro t r ht
    cases hw : t.token with
    | word => simp [hw, Token.isWord] at ht
    | _ => simp [column, hw, Except.bind]
  · intro t value quoted ht
    exact congrArg (conclude ts) (typeReading_eq ht _).symm

theorem behindName_answer (of : NameOf) (part : Text) :
    (if token? ts s.pos = some .period then s.move (.namePart of)
        else s.endName part of).answer source ts
      = conclude ts ((nameAfter of.use part (ts.drop s.pos)).bind fun p =>
        nameReading source s.name s.columns p.1 of p.2) := by
  have hend (hstop : ∀ t ∈ (ts.drop s.pos).head?, t.token ≠ .period) :
      (s.endName part of).answer source ts
        = conclude ts ((nameAfter of.use part (ts.drop s.pos)).bind fun p =>
          nameReading source s.name s.columns p.1 of p.2) := by
    rw [Written.nameAfter_stop of.use part hstop]
    cases of <;> rfl
  rcases left_cases ts s.pos with ⟨htoken, hleft⟩ | ⟨t, -, htoken, hleft⟩
  · rw [htoken]
    exact hend (by simp [hleft])
  · rw [htoken]
    split
    · next hperiod =>
      rw [hleft, nameAfter_of_period part (Option.some.inj hperiod)]
      rfl
    · next hperiod =>
      refine hend ?_
      rw [hleft]
      rintro u ⟨rfl⟩ hu
      exact hperiod (congrArg some hu)

/-- An opening parenthesis is read, or else a fault is found there. -/
theorem openingStep_answer {next : Point} {fault : GrammarFault}
    (reading : List Placed → Result Table) (hnil : reading [] = .error (fault, []))
    (hother : ∀ t r, t.token ≠ .leftParen → reading (t :: r) = .error (fault, t :: r))
    (hleft : ∀ t, t.token = .leftParen →
      conclude ts (reading (t :: ts.drop (s.pos + 1))) = (s.move next).answer source ts) :
    (openingStep ts s next fault).answer source ts = conclude ts (reading (ts.drop s.pos)) := by
  unfold openingStep
  rcases left_cases ts s.pos with ⟨htoken, hdrop⟩ | ⟨t, -, htoken, hdrop⟩
  · rw [htoken, if_neg nofun, answer_fail, hdrop, hnil]
  · rw [htoken, hdrop]
    by_cases ht : t.token = .leftParen
    · rw [if_pos (congrArg some ht), hleft t ht]
    · rw [if_neg fun h => ht (Option.some.inj h), answer_fail, hdrop, hother t _ ht]

theorem columnList_answer :
    (openingStep ts s .entries .expectedColumnList).answer source ts
      = conclude ts (nameReading source s.name s.columns s.name .table (ts.drop s.pos)) :=
  openingStep_answer (nameReading source s.name s.columns s.name .table) rfl
    (fun _ _ ht => if_neg ht) fun _ ht => congrArg (conclude ts) (if_pos ht)

theorem openGroup_answer (around : Around) :
    (openingStep ts s (.group around 1) .expectedGroup).answer source ts
      = conclude ts ((skipGroup (ts.drop s.pos)).bind
        (aroundReading source s.name s.columns around)) := by
  refine openingStep_answer
    (fun left => (skipGroup left).bind (aroundReading source s.name s.columns around)) rfl ?_ ?_
  · intro t r ht
    rw [skipGroup, if_neg ht]
    rfl
  · intro t ht
    rw [skipGroup, if_pos ht]
    rfl

theorem entryStep_answer : (entryStep ts s).answer source ts
    = conclude ts (listReading source s.name s.columns (ts.drop s.pos)) := by
  unfold entryStep
  rcases left_cases ts s.pos with ⟨htoken, hleft⟩ | ⟨t, -, htoken, hleft⟩
  · rw [htoken, hleft, listReading, entries]
    dsimp only
    rw [answer_fail, hleft]
    rfl
  · rw [htoken, hleft]
    dsimp only
    split
    · next hright =>
      rw [listReading, entries, if_pos hright]
      simp [conclude, State.answer, State.move, Except.map]
    next hright =>
    rw [listReading_cons hright, entry]
    split
    · have hanswer : (s.stay .tableConstraint).answer source ts
          = conclude ts (tableConstraintReading source s.name s.columns (ts.drop s.pos)) := rfl
      rw [hanswer, hleft, tableConstraintReading]
      cases skipEntry (t :: ts.drop (s.pos + 1)) with
      | error e => rfl
      | ok rest => simp [Except.bind, Except.map]
    · have hanswer : (s.stay .columnName).answer source ts
          = conclude ts ((column source (ts.drop s.pos)).bind fun p =>
            separatorReading source s.name (s.columns ++ [p.1]) p.2) := rfl
      rw [hanswer, hleft]
      cases column source (t :: ts.drop (s.pos + 1)) <;> rfl

theorem endType_answer (c : Pending) (again : Bool) : (endType ts s c again).answer source ts
    = conclude ts (endTypeReading source s.name s.columns again c (ts.drop s.pos)) := by
  unfold endType endTypeReading
  split
  · rfl
  split
  · rfl
  rw [maybeGroup, ← token?_eq_head?]
  split <;> rfl

theorem typeStep_answer (c : Pending) (again : Bool) : (typeStep ts s c again).answer source ts
    = conclude ts (typeReading source s.name s.columns again c (ts.drop s.pos)) := by
  have hend (hstop : Written.EndsType (ts.drop s.pos)) : (endType ts s c again).answer source ts
      = conclude ts (typeReading source s.name s.columns again c (ts.drop s.pos)) := by
    rw [endType_answer, typeReading, Written.typeWords_stop hstop, List.append_nil]
  unfold typeStep
  rcases left_cases ts s.pos with ⟨htoken, hleft⟩ | ⟨t, -, htoken, hleft⟩
  · rw [htoken]
    exact hend (by simp [Written.EndsType, hleft])
  · rw [htoken]
    cases ht : t.token with
    | word value quoted =>
      dsimp only
      split
      · next hkeyword =>
        refine hend ?_
        rw [hleft]
        rintro u ⟨rfl⟩ -
        rw [ht]
        exact hkeyword
      · next hkeyword =>
        rw [hleft, typeReading_cons ht hkeyword]
        rfl
    | _ =>
      refine hend ?_
      rw [hleft]
      rintro u ⟨rfl⟩ hword
      rw [ht] at hword
      cases hword

theorem endColumn_answer (c : Pending) : (s.endColumn c).answer source ts
    = conclude ts (separatorReading source s.name (s.columns ++ [c.column]) (ts.drop s.pos)) := rfl

theorem answer_clauses (c : Pending) : (s.stay (.clauses c)).answer source ts
    = conclude ts (clausesReading source s.name s.columns c (ts.drop s.pos)) := rfl

theorem answer_move_clauses (c : Pending) : (s.move (.clauses c)).answer source ts
    = conclude ts (clausesReading source s.name s.columns c (ts.drop (s.pos + 1))) := rfl

theorem clauseStep_answer (c : Pending) : (clauseStep ts s c).answer source ts
    = conclude ts (clausesReading source s.name s.columns c (ts.drop s.pos)) := by
  unfold clauseStep
  rcases left_cases ts s.pos with ⟨htoken, hleft⟩ | ⟨t, -, htoken, hleft⟩
  · rw [htoken]
    dsimp only
    rw [endColumn_answer, hleft, clausesReading, constraints]
    simp [Except.bind]
  rw [htoken]
  dsimp only
  split
  · next hend =>
    rw [endColumn_answer, hleft, clausesReading_isEnd (by simpa [IsEnd] using hend)]
  next hend =>
  rw [hleft, clausesReading_cons (by simpa [IsEnd] using hend), constraint]
  dsimp only
  split
  · next hopening =>
    have hanswer : (s.stay (.openGroup (.clauses c))).answer source ts
        = conclude ts ((skipGroup (ts.drop s.pos)).bind
          (clausesReading source s.name s.columns c)) := rfl
    rw [hanswer, hleft]
    cases skipGroup (t :: ts.drop (s.pos + 1)) with
    | error e => rfl
    | ok rest => simp [Except.bind, Except.map]
  split
  · rfl
  split
  · rfl
  split
  · rfl
  split
  · rfl
  split
  · have hanswer : (s.move (.expression c (s.pos + 1) 0)).answer source ts
        = conclude ts (textReading source s.name s.columns c
          (((ts.take (s.pos + 1)).drop (s.pos + 1))
            ++ (expressionTokens 0 (s.pos + 1 == s.pos + 1) (ts.drop (s.pos + 1))).1)
          (expressionTokens 0 (s.pos + 1 == s.pos + 1) (ts.drop (s.pos + 1))).2) := rfl
    have hnil : (ts.take (s.pos + 1)).drop (s.pos + 1) = [] :=
      List.drop_eq_nil_of_le (List.length_take_le _ _)
    rw [hanswer, hnil, beq_self_eq_true, List.nil_append, textReading_eq]
  split
  · exact congrArg (conclude ts) (referencedReading_eq c _)
  split
  · simp [Except.bind, State.answer, State.move]
  · simp [Except.bind, State.answer, State.move]

theorem second_answer (c : Pending) (keyword : String) (k : Constraint) :
    (if (token? ts s.pos).any (·.isKeyword keyword.toList) then s.move (.clauses (c.add k))
        else s.stay (.clauses c)).answer source ts
      = conclude ts (clausesReading source s.name s.columns
        { c with
          constraints := c.constraints ++ (pairConstraint keyword k (ts.drop s.pos)).1.toList }
        (pairConstraint keyword k (ts.drop s.pos)).2) := by
  rcases left_cases ts s.pos with ⟨htoken, hleft⟩ | ⟨t, -, htoken, hleft⟩
  · simp [htoken, hleft, pairConstraint, afterKeyword?, answer_clauses]
  · cases hkeyword : t.token.isKeyword keyword.toList with
    | true =>
      simp [htoken, hleft, hkeyword, pairConstraint, afterKeyword?, answer_move_clauses,
        Pending.add]
    | false =>
      simp [htoken, hleft, hkeyword, pairConstraint, afterKeyword?, answer_clauses]

theorem constraintName_answer (c : Pending) :
    (if (word? ts s.pos).isSome then s.move (.clauses c) else s.stay (.clauses c)).answer source ts
      = conclude ts (clausesReading source s.name s.columns c
        (if (peekWord? (ts.drop s.pos)).isSome then (ts.drop s.pos).tail else ts.drop s.pos)) := by
  rw [word?_eq_peekWord?]
  split
  · rw [answer_move_clauses, List.tail_drop]
  · rw [answer_clauses]

/-- A step within an expression, by the number of groups that are open behind the token. -/
theorem expressionStep_eq {c : Pending} {first depth : Nat} {t : Token} (hfirst : first ≤ s.pos)
    (htoken : token? ts s.pos = some t) : expressionStep ts s c first depth
      = match expressionDepth? depth (s.pos == first) t with
        | none => s.stay (.expressionText c first)
        | some depth => s.move (.expression c first depth) := by
  have hbegun : (s.pos == first) = !decide (first < s.pos) := by
    rcases Nat.eq_or_lt_of_le hfirst with heq | hlt
    · simp [heq]
    · simp [hlt, Nat.ne_of_gt hlt]
  unfold expressionStep
  rw [htoken, hbegun]
  cases t <;> cases depth <;> simp [expressionDepth?]
  -- outside all groups the keyword of a constraint ends the expression
  all_goals split <;> rfl

theorem expressionStep_answer (c : Pending) {first : Nat} (depth : Nat) (hfirst : first ≤ s.pos) :
    (expressionStep ts s c first depth).answer source ts
      = conclude ts (textReading source s.name s.columns c
        ((ts.take s.pos).drop first
          ++ (expressionTokens depth (s.pos == first) (ts.drop s.pos)).1)
        (expressionTokens depth (s.pos == first) (ts.drop s.pos)).2) := by
  have hend (hstop : expressionTokens depth (s.pos == first) (ts.drop s.pos)
        = ([], ts.drop s.pos)) : (s.stay (.expressionText c first)).answer source ts
      = conclude ts (textReading source s.name s.columns c
        ((ts.take s.pos).drop first
          ++ (expressionTokens depth (s.pos == first) (ts.drop s.pos)).1)
        (expressionTokens depth (s.pos == first) (ts.drop s.pos)).2) := by
    rw [hstop, List.append_nil]
    rfl
  rcases left_cases ts s.pos with ⟨htoken, hleft⟩ | ⟨t, ht, htoken, hleft⟩
  · rw [expressionStep, htoken]
    exact hend (by rw [hleft]; rfl)
  rw [expressionStep_eq hfirst htoken]
  cases hdepth : expressionDepth? depth (s.pos == first) t.token with
  | none => exact hend (by rw [hleft, expressionTokens, hdepth])
  | some depth' =>
    have hanswer : (s.move (.expression c first depth')).answer source ts
        = conclude ts (textReading source s.name s.columns c
          ((ts.take (s.pos + 1)).drop first
            ++ (expressionTokens depth' (s.pos + 1 == first) (ts.drop (s.pos + 1))).1)
          (expressionTokens depth' (s.pos + 1 == first) (ts.drop (s.pos + 1))).2) := rfl
    have hbegun : (s.pos + 1 == first) = false := beq_false_of_ne (by omega)
    -- the token is the last one of the expression so far
    have htake : (ts.take (s.pos + 1)).drop first = (ts.take s.pos).drop first ++ [t] := by
      have hlength : first ≤ (ts.take s.pos).length := by
        have := (List.getElem?_eq_some_iff.mp ht).1
        rw [List.length_take]
        omega
      rw [List.take_add_one, ht, Option.toList_some, List.drop_append_of_le_length hlength]
    rw [hanswer, hbegun, htake, hleft, expressionTokens, hdepth, List.append_assoc]
    rfl

/-- The tokens between two places, by the first and the last of them. -/
theorem exists_used {first pos : Nat} {t u : Placed} (hlt : first < pos) (ht : ts[first]? = some t)
    (hu : ts[pos - 1]? = some u) : ∃ r, (ts.take pos).drop first = t :: r
      ∧ (t :: r).getLast (List.cons_ne_nil t r) = u := by
  have hhead : ((ts.take pos).drop first).head? = some t := by
    rw [List.head?_drop, List.getElem?_take_of_lt hlt, ht]
  have hlast : ((ts.take pos).drop first).getLast? = some u := by
    have hfirst : first < ts.length := (List.getElem?_eq_some_iff.mp ht).1
    rw [List.getLast?_drop, List.length_take, if_neg (by omega), List.getLast?_take,
      if_neg (by omega), hu, Option.some_or]
  obtain ⟨r, hr⟩ := List.head?_eq_some_iff.mp hhead
  refine ⟨r, hr, ?_⟩
  rw [hr, List.getLast?_eq_some_getLast (List.cons_ne_nil t r)] at hlast
  exact Option.some.inj hlast

theorem textStep_answer (c : Pending) {first : Nat} (hfirst : first ≤ s.pos)
    (hpos : s.pos ≤ ts.length) : (textStep source ts s c first).answer source ts
      = conclude ts
        (textReading source s.name s.columns c ((ts.take s.pos).drop first) (ts.drop s.pos)) := by
  rcases Nat.eq_or_lt_of_le hfirst with heq | hlt
  · have hnil : (ts.take s.pos).drop first = [] :=
      List.drop_eq_nil_of_le (by rw [List.length_take]; omega)
    rw [textStep, if_pos heq.symm, hnil]
    rfl
  · obtain ⟨t, u, ht, hu, htext⟩ := exists_textStep source c hlt hpos
    obtain ⟨r, hused, hlast⟩ := exists_used hlt ht hu
    rw [htext, answer_clauses, hused, textReading, hlast]

theorem referenced_answer (c : Pending) (table : Text) :
    (if token? ts s.pos = some .leftParen then
        s.stay (.openGroup (.reference c table (word? ts (s.pos + 1))))
      else s.stay (.clauses (c.add (.references table none)))).answer source ts
      = conclude ts (referencedReading source s.name s.columns c table (ts.drop s.pos)) := by
  rw [referencedReading, List.tail_drop, ← word?_eq_peekWord?, maybeGroup, ← token?_eq_head?]
  split <;> rfl

theorem endGroup_answer (around : Around) : (s.endGroup around).answer source ts
    = conclude ts (aroundReading source s.name s.columns around (ts.drop s.pos)) := by
  cases around with
  | type c => rfl
  | clauses c => rfl
  | reference c table referenced => rfl
  | tableConstraint => rfl

theorem groupStep_answer (around : Around) (depth : Nat) :
    (groupStep ts s around (depth + 1)).answer source ts
      = conclude ts ((closeGroup depth (ts.drop s.pos)).bind
        (aroundReading source s.name s.columns around)) := by
  rw [groupStep, if_neg (Nat.succ_ne_zero depth)]
  rcases left_cases ts s.pos with ⟨htoken, hleft⟩ | ⟨t, -, htoken, hleft⟩
  · rw [htoken]
    dsimp only
    rw [answer_fail, hleft]
    rfl
  · rw [htoken, hleft]
    cases ht : t.token with
    | rightParen =>
      cases depth with
      | zero =>
        simp only [closeGroup, ht]
        rfl
      | succ depth =>
        simp only [closeGroup, ht]
        rfl
    | _ =>
      simp only [closeGroup, ht]
      rfl

theorem tableConstraintStep_answer : (tableConstraintStep ts s).answer source ts
    = conclude ts (tableConstraintReading source s.name s.columns (ts.drop s.pos)) := by
  unfold tableConstraintStep
  rcases left_cases ts s.pos with ⟨htoken, hleft⟩ | ⟨t, -, htoken, hleft⟩
  · have hanswer : (s.stay .separator).answer source ts
        = conclude ts (separatorReading source s.name s.columns (ts.drop s.pos)) := rfl
    rw [htoken]
    dsimp only
    rw [hanswer, hleft, tableConstraintReading, skipEntry]
    rfl
  rw [htoken]
  dsimp only
  split
  · next hend =>
    rw [hleft, tableConstraintReading, skipEntry, if_pos hend, ← hleft]
    rfl
  next hend =>
  split
  · next hopening =>
    rw [hleft, tableConstraintReading_group hopening, ← hleft]
    rfl
  · next hopening =>
    rw [hleft, tableConstraintReading_cons (by simpa [IsEnd] using hend) hopening]
    rfl

theorem separatorStep_answer : (separatorStep ts s).answer source ts
    = conclude ts (separatorReading source s.name s.columns (ts.drop s.pos)) := by
  unfold separatorStep
  rcases left_cases ts s.pos with ⟨htoken, hleft⟩ | ⟨t, -, htoken, hleft⟩
  · rw [htoken]
    dsimp only
    rw [answer_fail, hleft]
    rfl
  · rw [htoken, hleft, separatorReading]
    cases t.token with
    | comma => rfl
    | rightParen => rfl
    | _ =>
      dsimp only
      rw [answer_fail, hleft]

/-- A step does not change what comes of a definition. -/
theorem Sound.answer_eq {s' : State} (h : Sound ts s) (hstep : Steps source ts s s') :
    s'.answer source ts = s.answer source ts := by
  obtain ⟨hpos, hfits⟩ := h
  unfold Steps step at hstep
  cases hpoint : s.point <;> simp only [hpoint, Option.some.injEq, reduceCtorEq] at hstep hfits <;>
    try subst hstep
  all_goals rw [State.answer.eq_def source ts s, hpoint]
  case header => exact headerStep_answer hfits
  case name of => exact name_answer of
  case behindName of part => exact behindName_answer of part
  case namePart of => exact namePart_answer of
  case columnList => exact columnList_answer
  case entries => exact entryStep_answer
  case columnName => exact columnName_answer
  case typeWords c again => exact typeStep_answer c again
  case clauses c => exact clauseStep_answer c
  case second c keyword k => exact second_answer c keyword k
  case constraintName c => exact constraintName_answer c
  case expression c first depth => exact expressionStep_answer c depth hfits
  case expressionText c first => exact textStep_answer c hfits hpos
  case referenced c table => exact referenced_answer c table
  case openGroup around => exact openGroup_answer around
  case group around depth =>
    cases depth with
    | zero => exact endGroup_answer around
    | succ depth => exact groupStep_answer around depth
  case tableConstraint => exact tableConstraintStep_answer
  case separator => exact separatorStep_answer

end Step

end TableScaffold.Cursor
