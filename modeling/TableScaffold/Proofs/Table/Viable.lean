import TableScaffold.Proofs.Table.Clauses
import TableScaffold.Proofs.Table.Halt

set_option autoImplicit false

/-!
# The readers of the grammar are viable

Each reader of the grammar sees one token ahead, and what it has used when it comes to
the end of all tokens can be completed: by a word where a name, a type or a value is
missing, and by one closing parenthesis for each group that is open (`table_viable`).
-/

namespace TableScaffold.Grammar

open Sql (Placed Token)
open Written (nameAfter_stop typeWords_stop)

variable {follows : List Placed → Prop} {source : Text}

/-! ## What completes a definition -/

/-- A word that may stand for any name, type or value. -/
def anyWord : Placed := ⟨.word ['x'] false, Location.start, Location.start⟩

/-- An opening parenthesis, wherever it is. -/
def anyOpening : Placed := ⟨.leftParen, Location.start, Location.start⟩

/-- Tokens that begin with a closing parenthesis. -/
def Closing (rest : List Placed) : Prop :=
  ∃ u r, rest = u :: r ∧ u.token = .rightParen

/-- Tokens that do not go on with a qualified name. -/
def EndsName (rest : List Placed) : Prop :=
  ∀ t ∈ rest.head?, t.token ≠ .period

theorem Closing.endsName {rest : List Placed} (h : Closing rest) : EndsName rest := by
  obtain ⟨u, r, rfl, hu⟩ := h
  intro t ht
  obtain rfl := Option.some.inj ht
  simp [hu]

theorem Closing.endsType {rest : List Placed} (h : Closing rest) : Written.EndsType rest := by
  obtain ⟨u, r, rfl, hu⟩ := h
  intro t ht hword
  obtain rfl := Option.some.inj ht
  rw [hu] at hword
  cases hword

theorem closing_anyClosing (rest : List Placed) : Closing (anyClosing :: rest) :=
  ⟨anyClosing, rest, rfl, rfl⟩

theorem noBlanks_singleton {t : Placed} (ht : t.token ≠ .blank) : NoBlanks [t] :=
  List.forall_mem_singleton.mpr ht

theorem noBlanks_closings (n : Nat) : NoBlanks (List.replicate n anyClosing) := by
  intro t ht
  rw [List.eq_of_mem_replicate ht]
  exact Token.noConfusion

/-! ## Groups -/

theorem closeGroup_closings (depth : Nat) (rest : List Placed) :
    closeGroup depth (List.replicate (depth + 1) anyClosing ++ rest) = .ok rest := by
  induction depth with
  | zero => rfl
  | succ depth ih =>
    rw [List.replicate_succ, List.cons_append]
    exact ih

theorem closeGroup_viable (depth : Nat) (ts : List Placed) :
    Viable follows (fun _ ts => halt (closeGroup depth ts)) source ts := by
  induction ts generalizing depth with
  | nil =>
    refine .nil (some .unbalancedGroup) (fun _ => rfl) ⟨_, noBlanks_closings (depth + 1), ?_⟩
    intro _ rest _
    rw [closeGroup_closings]
    rfl
  | cons t r ih =>
    cases ht : t.token with
    | leftParen => exact .cons (fun _ _ _ h => by simp [closeGroup, h, ht]) (ih (depth + 1))
    | rightParen =>
      cases depth with
      | zero => exact .cons (fun _ _ _ h => by simp [closeGroup, h, ht, halt]) .idle
      | succ depth => exact .cons (fun _ _ _ h => by simp [closeGroup, h, ht]) (ih depth)
    | _ => exact .cons (fun _ _ _ h => by simp [closeGroup, h, ht]) (ih depth)

/-- What stands behind the first words of a type and behind the name of a referenced
table: a group, with what is read behind it, or else nothing. -/
def afterGroup (next : List Placed → Halt) : List Placed → Halt
  | [] => ⟨none, []⟩
  | t :: r =>
    if t.token = .leftParen then (halt (closeGroup 0 r)).andThen next else ⟨none, t :: r⟩

theorem afterGroup_of_closing (next : List Placed → Halt) {rest : List Placed} (h : Closing rest) :
    afterGroup next rest = ⟨none, rest⟩ := by
  obtain ⟨u, r, rfl, hu⟩ := h
  simp [afterGroup, hu]

theorem afterGroup_viable {next : List Placed → Halt}
    (hnext : ∀ ts, Viable Closing (fun _ ts => next ts) source ts)
    (hclosing : ∀ rest, Closing rest → next rest = ⟨none, rest⟩) (ts : List Placed) :
    Viable Closing (fun _ ts => afterGroup next ts) source ts := by
  cases ts with
  | nil =>
    exact .nil_idle (fun _ => rfl) fun _ _ hrest => afterGroup_of_closing next hrest
  | cons t r =>
    by_cases ht : t.token = .leftParen
    · refine .cons (fun _ _ _ h => by rw [afterGroup, if_pos (h.trans ht)]) ?_
      have hgroup : Viable (fun _ => True) (fun _ ts => halt (closeGroup 0 ts)) source r :=
        closeGroup_viable 0 r
      exact hgroup.andThen_idle (fun _ => hnext _) (fun _ _ => trivial) fun _ => hclosing
    · exact .stop none fun _ _ _ h => by rw [afterGroup, if_neg (h ▸ ht)]

/-! ## Names -/

/-- The rest of a qualified name behind a period. -/
def afterPeriod (use : NameUse) : List Placed → Result Text
  | [] => .error (.expectedNameAfterPeriod use, [])
  | w :: r =>
    match w.token with
    | .word part _ => nameAfter use part r
    | _ => .error (.expectedNameAfterPeriod use, w :: r)

theorem nameAfter_of_period {use : NameUse} (name : Text) {t : Placed} (ht : t.token = .period)
    (r : List Placed) : nameAfter use name (t :: r) = afterPeriod use r := by
  cases r with
  | nil => rw [nameAfter, if_pos ht, afterPeriod]
  | cons w r => cases hw : w.token <;> simp only [nameAfter, if_pos ht, afterPeriod, hw]

theorem nameAfter_viable (use : NameUse) (name : Text) (ts : List Placed) :
    Viable EndsName (fun _ ts => haltRead (nameAfter use name ts)) source ts := by
  have hstop {name : Text} {t : Placed} {r : List Placed} (ht : t.token ≠ .period) :
      Viable EndsName (fun _ ts => haltRead (nameAfter use name ts)) source (t :: r) := by
    refine .stop none fun _ t' r' h => ?_
    rw [nameAfter_stop use name (by simpa [h] using ht)]
    rfl
  fun_induction nameAfter use name ts with
  | case1 name =>
    refine .nil_idle (fun _ => rfl) fun _ rest hrest => ?_
    rw [nameAfter_stop use name hrest]
    rfl
  | case2 name t ht =>
    refine .cons (fun _ _ r' h => by rw [nameAfter_of_period name (h.trans ht) r']) ?_
    refine .nil (some (.expectedNameAfterPeriod use)) (fun _ => rfl)
      ⟨[anyWord], noBlanks_singleton Token.noConfusion, fun _ rest hrest => ?_⟩
    rw [List.singleton_append]
    exact congrArg haltRead (nameAfter_stop use ['x'] hrest)
  | case3 name t ht => exact hstop ht
  | case4 name t w r ht part quoted hw ih =>
    refine .cons (fun _ _ r' h => by rw [nameAfter_of_period name (h.trans ht) r']) ?_
    exact .cons (fun _ _ _ h => by simp [afterPeriod, h, hw]) ih
  | case5 name t w r ht hw =>
    refine .cons (fun _ _ r' h => by rw [nameAfter_of_period name (h.trans ht) r']) ?_
    refine .stop (some (.expectedNameAfterPeriod use)) fun _ w' _ h => ?_
    rw [afterPeriod, h]
    split
    · next part quoted hword => exact absurd hword (hw part quoted)
    · rfl
  | case6 name t w r ht => exact hstop ht

theorem qualifiedName_viable (use : NameUse) (ts : List Placed) :
    Viable EndsName (fun _ ts => haltRead (qualifiedName use ts)) source ts := by
  cases ts with
  | nil =>
    refine .nil (some (.expectedName use)) (fun _ => rfl)
      ⟨[anyWord], noBlanks_singleton Token.noConfusion, fun _ rest hrest => ?_⟩
    exact congrArg haltRead (nameAfter_stop use ['x'] hrest)
  | cons t r =>
    cases ht : t.token with
    | word name quoted =>
      exact .cons (fun _ _ _ h => by simp [qualifiedName, h, ht]) (nameAfter_viable use name r)
    | _ =>
      refine .stop (some (.expectedName use)) fun _ _ _ h => ?_
      simp [qualifiedName, h, ht, haltRead, halt, Except.map]

/-! ## Types -/

/-- A token begins a type, or no tokens that begin with it do. -/
theorem begins_type_or_stops (t : Placed) :
    (∃ value quoted, t.token = .word value quoted
      ∧ (Token.word value quoted).isAnyKeyword constraintKeywords = false)
    ∨ ∀ t' : Placed, t'.token = t.token → ∀ r, typeWords (t' :: r) = ([], t' :: r) := by
  by_cases hends : t.token.isWord = true → t.token.isAnyKeyword constraintKeywords = true
  · refine .inr fun t' h r => typeWords_stop ?_
    simpa [Written.EndsType, h] using hends
  · obtain ⟨hword, hkeyword⟩ := Classical.not_imp.mp hends
    cases ht : t.token with
    | word value quoted =>
      rw [ht] at hkeyword
      exact .inl ⟨value, quoted, rfl, Bool.eq_false_iff.mpr hkeyword⟩
    | _ =>
      rw [ht] at hword
      cases hword

theorem typeWords_viable (ts : List Placed) :
    Viable Closing (fun _ ts => ⟨none, (typeWords ts).2⟩) source ts := by
  induction ts with
  | nil =>
    refine .nil_idle (fun _ => rfl) fun _ rest hrest => ?_
    rw [typeWords_stop hrest.endsType]
  | cons t r ih =>
    rcases begins_type_or_stops t with ⟨value, quoted, ht, hkeyword⟩ | hstops
    · exact .cons (fun _ _ _ h => by simp [typeWords, h, ht, hkeyword]) ih
    · exact .stop none fun _ _ _ h => by rw [hstops _ h]

/-- Behind the first word of a type stand its other words, and behind them a group. -/
theorem columnType_cons (column : Text) {t : Placed} {value : Text} {quoted : Bool}
    (ht : t.token = .word value quoted)
    (hkeyword : (Token.word value quoted).isAnyKeyword constraintKeywords = false)
    (r : List Placed) : haltRead (columnType column (t :: r))
      = Halt.andThen ⟨none, (typeWords r).2⟩ (afterGroup fun ts => ⟨none, (typeWords ts).2⟩) := by
  have hwords : typeWords (t :: r) = (value :: (typeWords r).1, (typeWords r).2) := by
    simp [typeWords, ht, hkeyword]
  rw [columnType, hwords]
  cases hbehind : (typeWords r).2 with
  | nil => rfl
  | cons u s =>
    by_cases hu : u.token = .leftParen
    · simp only [hu, if_true, skipGroup, Halt.andThen, afterGroup]
      cases closeGroup 0 s <;> rfl
    · simp only [hu, if_false, Halt.andThen, afterGroup]
      rfl

theorem typeWords_afterGroup_viable (ts : List Placed) : Viable Closing
    (fun _ ts => Halt.andThen ⟨none, (typeWords ts).2⟩
      (afterGroup fun ts => ⟨none, (typeWords ts).2⟩)) source ts := by
  have hclosing (rest : List Placed) (hrest : Closing rest) :
      (⟨none, (typeWords rest).2⟩ : Halt) = ⟨none, rest⟩ := by
    rw [typeWords_stop hrest.endsType]
  exact (typeWords_viable ts).andThen_idle
    (fun _ => afterGroup_viable typeWords_viable hclosing _) (fun _ => id)
    fun _ _ => afterGroup_of_closing _

theorem columnType_viable (column : Text) (ts : List Placed) :
    Viable Closing (fun _ ts => haltRead (columnType column ts)) source ts := by
  cases ts with
  | nil =>
    refine .nil (some (.expectedType column)) (fun _ => rfl)
      ⟨[anyWord], noBlanks_singleton Token.noConfusion, fun _ rest hrest => ?_⟩
    rw [List.singleton_append, columnType_cons column rfl (by decide),
      typeWords_stop hrest.endsType]
    exact afterGroup_of_closing _ hrest
  | cons t r =>
    rcases begins_type_or_stops t with ⟨value, quoted, ht, hkeyword⟩ | hstops
    · refine .cons (fun _ t' r' h => ?_) (typeWords_afterGroup_viable r)
      exact columnType_cons column (h.trans ht) hkeyword r'
    · refine .stop (some (.expectedType column)) fun _ t' r' h => ?_
      rw [columnType, hstops t' h r']
      rfl

/-! ## Expressions -/

theorem expressionTokens_closings (depth : Nat) (first : Bool) {rest : List Placed}
    (hrest : Closing rest) :
    (expressionTokens depth first (List.replicate depth anyClosing ++ rest)).2 = rest := by
  induction depth generalizing first with
  | zero =>
    obtain ⟨u, r, rfl, hu⟩ := hrest
    simp [expressionTokens, expressionDepth?, hu]
  | succ depth ih =>
    rw [List.replicate_succ, List.cons_append]
    exact ih false

theorem expressionTokens_viable (depth : Nat) (first : Bool) (ts : List Placed) :
    Viable Closing (fun _ ts => ⟨none, (expressionTokens depth first ts).2⟩) source ts := by
  induction ts generalizing depth first with
  | nil =>
    refine .nil none (fun _ => rfl) ⟨_, noBlanks_closings depth, fun _ rest hrest => ?_⟩
    rw [expressionTokens_closings depth first hrest]
  | cons t r ih =>
    cases hdepth : expressionDepth? depth first t.token with
    | some depth' =>
      exact .cons (fun _ _ _ h => by simp [expressionTokens, h, hdepth]) (ih depth' false)
    | none => exact .stop none fun _ _ _ h => by simp [expressionTokens, h, hdepth]

theorem defaultValue_cons (source : Text) {t : Placed} {depth : Nat}
    (ht : expressionDepth? 0 true t.token = some depth) (r : List Placed) :
    haltRead (defaultValue source (t :: r)) = ⟨none, (expressionTokens depth false r).2⟩ := by
  rw [defaultValue, expressionTokens, ht]
  rfl

theorem defaultValue_viable (ts : List Placed) :
    Viable Closing (fun source ts => haltRead (defaultValue source ts)) source ts := by
  cases ts with
  | nil =>
    refine .nil (some .expectedExpression) (fun _ => rfl)
      ⟨[anyWord], noBlanks_singleton Token.noConfusion, fun source' rest hrest => ?_⟩
    rw [List.singleton_append, defaultValue_cons source' rfl]
    exact congrArg (Halt.mk none) (expressionTokens_closings 0 false hrest)
  | cons t r =>
    cases ht : expressionDepth? 0 true t.token with
    | some depth =>
      refine .cons (fun source' t' r' h => ?_) (expressionTokens_viable depth false r)
      exact defaultValue_cons source' (h ▸ ht) r'
    | none =>
      refine .stop (some .expectedExpression) fun _ _ _ h => ?_
      rw [defaultValue, expressionTokens, h, ht]
      rfl

/-! ## References -/

theorem reference_eq (ts : List Placed) : haltRead (reference ts)
    = (haltRead (qualifiedName .referencedTable ts)).andThen (afterGroup fun ts => ⟨none, ts⟩) := by
  rw [reference]
  rcases qualifiedName .referencedTable ts with e | ⟨name, _ | ⟨t, r⟩⟩
  · rfl
  · rfl
  · by_cases ht : t.token = .leftParen
    · simp only [ht, if_true, skipGroup, haltRead, Except.map, halt, Halt.andThen, afterGroup]
      cases closeGroup 0 r <;> rfl
    · simp only [ht, if_false, haltRead, Except.map, halt, Halt.andThen, afterGroup]

theorem reference_viable (ts : List Placed) :
    Viable Closing (fun _ ts => haltRead (reference ts)) source ts := by
  simp only [reference_eq]
  exact (qualifiedName_viable .referencedTable ts).andThen_idle
    (fun _ => afterGroup_viable (fun _ => .idle) (fun _ _ => rfl) _) (fun _ => Closing.endsName)
    fun _ _ => afterGroup_of_closing _

/-! ## Clauses -/

theorem afterKeyword?_of_closing (keyword : Text) {rest : List Placed} (h : Closing rest) :
    afterKeyword? keyword rest = none := by
  obtain ⟨u, r, rfl, hu⟩ := h
  simp [afterKeyword?, hu, Token.isKeyword]

theorem pairConstraint_viable (second : String) (c : Constraint) (ts : List Placed) :
    Viable Closing (fun _ ts => ⟨none, (pairConstraint second c ts).2⟩) source ts := by
  cases ts with
  | nil =>
    refine .nil_idle (fun _ => rfl) fun _ rest hrest => ?_
    rw [pairConstraint, afterKeyword?_of_closing _ hrest]
  | cons t r =>
    cases ht : t.token.isKeyword second.toList with
    | true =>
      exact .cons (fun _ _ _ h => by simp [pairConstraint, afterKeyword?, h, ht]) .idle
    | false =>
      exact .stop none fun _ _ _ h => by simp [pairConstraint, afterKeyword?, h, ht]

/-- The name behind `CONSTRAINT` is left out, if there is one. -/
theorem constraintName_viable (ts : List Placed) : Viable Closing
    (fun _ ts => ⟨none, if (peekWord? ts).isSome then ts.tail else ts⟩) source ts := by
  cases ts with
  | nil =>
    refine .nil_idle (fun _ => rfl) ?_
    rintro _ _ ⟨u, r, rfl, hu⟩
    simp [peekWord?, hu]
  | cons t r =>
    cases ht : t.token.isWord with
    | true => exact .cons (fun _ _ _ h => by simp [peekWord?_isSome, h, ht]) .idle
    | false => exact .stop none fun _ _ _ h => by simp [peekWord?_isSome, h, ht]

theorem haltRead_map {α β : Type} (x : Result α) (f : α → β) :
    haltRead (x.map fun p => (f p.1, p.2)) = haltRead x := by
  cases x <;> rfl

theorem constraint_viable (t : Placed) (ts : List Placed) :
    Viable Closing (fun source ts => haltRead (constraint source t ts)) source ts := by
  by_cases hleft : t.token = .leftParen
  · have hread (source' : Text) (r : List Placed) :
        haltRead (constraint source' t r) = halt (closeGroup 0 r) := by
      rw [constraint, if_pos hleft, skipGroup, if_pos hleft]
      cases closeGroup 0 r <;> rfl
    simp only [hread]
    exact closeGroup_viable 0 ts
  simp only [constraint, if_neg hleft]
  cases t.token.isKeyword "NOT".toList with
  | true => exact pairConstraint_viable "NULL" .notNull ts
  | false =>
  cases t.token.isKeyword "NULL".toList with
  | true => exact .idle
  | false =>
  cases t.token.isKeyword "PRIMARY".toList with
  | true => exact pairConstraint_viable "KEY" .primaryKey ts
  | false =>
  cases t.token.isKeyword "UNIQUE".toList with
  | true => exact .idle
  | false =>
  cases t.token.isKeyword "DEFAULT".toList with
  | true =>
    simp only [Bool.false_eq_true, if_false, if_true, haltRead_map]
    exact defaultValue_viable ts
  | false =>
  cases t.token.isKeyword "REFERENCES".toList with
  | true =>
    simp only [Bool.false_eq_true, if_false, if_true, haltRead_map]
    exact reference_viable ts
  | false =>
  by_cases hconstraint : t.token.isKeyword "CONSTRAINT".toList = true
  · simp only [hconstraint]
    exact constraintName_viable ts
  · simp only [hconstraint]
    exact .idle

theorem constraint_congr (source : Text) {t t' : Placed} (h : t'.token = t.token)
    (r : List Placed) : constraint source t' r = constraint source t r := by
  by_cases hleft : t.token = .leftParen
  · simp only [constraint, skipGroup, h, if_pos hleft]
  · simp only [constraint, h, if_neg hleft]

theorem constraints_eq (source : Text) {t : Placed} (ht : ¬ IsEnd t.token) (r : List Placed) :
    haltRead (constraints source (t :: r)) = (haltRead (constraint source t r)).andThen fun ts =>
      haltRead (constraints source ts) := by
  cases hread : constraint source t r with
  | error e =>
    rw [constraints, if_neg (by simpa [IsEnd] using ht)]
    split
    · next heq =>
      rw [hread] at heq
      cases heq
      rfl
    · next heq =>
      rw [hread] at heq
      cases heq
  | ok p =>
    rw [constraints_cons ht hread]
    exact haltRead_map (constraints source p.2) (p.1.toList ++ ·)

theorem constraints_of_closing (source : Text) {rest : List Placed} (h : Closing rest) :
    haltRead (constraints source rest) = ⟨none, rest⟩ := by
  obtain ⟨u, r, rfl, hu⟩ := h
  rw [constraints_of_isEnd (.inr hu)]
  rfl

theorem constraints_viable (ts : List Placed) :
    Viable Closing (fun source ts => haltRead (constraints source ts)) source ts := by
  induction hlength : ts.length using Nat.strongRecOn generalizing ts with
  | ind n ih =>
    subst hlength
    cases ts with
    | nil =>
      exact .nil_idle (fun _ => by rw [constraints]; rfl) fun source' _ =>
        constraints_of_closing source'
    | cons t r =>
      by_cases ht : IsEnd t.token
      · refine .stop none fun source' t' r' h => ?_
        rw [constraints_of_isEnd (h ▸ ht)]
        rfl
      · have hconstraint : Viable Closing (fun source ts => haltRead (constraint source t ts))
            source r := constraint_viable t r
        have hmore : Viable Closing (fun source ts => haltRead (constraints source ts)) source
            (haltRead (constraint source t r)).left :=
          ih _ (Nat.lt_succ_of_le hconstraint.suffix.length_le) _ rfl
        refine .cons (fun source' t' r' h => ?_) (hconstraint.andThen_idle (fun _ => hmore)
          (fun _ => id) fun source' _ => constraints_of_closing source')
        rw [constraints_eq source' (h ▸ ht), constraint_congr source' h]

/-! ## Columns and table constraints -/

theorem column_cons (source : Text) {t : Placed} {name : Text} {quoted : Bool}
    (ht : t.token = .word name quoted) (r : List Placed) : haltRead (column source (t :: r))
      = (haltRead (columnType name r)).andThen fun ts => haltRead (constraints source ts) := by
  simp only [column, ht]
  rcases columnType name r with e | ⟨words, rest⟩
  · rfl
  · simp only [haltRead, Except.map, halt, Halt.andThen]
    cases constraints source rest <;> rfl

theorem columnConstraints_viable (name : Text) (ts : List Placed) : Viable Closing
    (fun source ts => (haltRead (columnType name ts)).andThen fun ts =>
      haltRead (constraints source ts)) source ts := by
  exact (columnType_viable name ts).andThen_idle (fun _ => constraints_viable _) (fun _ => id)
    fun source' _ => constraints_of_closing source'

theorem column_viable (t : Placed) (r : List Placed) :
    Viable Closing (fun source ts => haltRead (column source ts)) source (t :: r) := by
  cases ht : t.token with
  | word name quoted =>
    refine .cons (fun source' t' r' h => ?_) (columnConstraints_viable name r)
    exact column_cons source' (h.trans ht) r'
  | _ =>
    refine .stop (some .expectedColumnName) fun _ _ _ h => ?_
    simp [column, h, ht, haltRead, Except.map, halt]

theorem skipEntry_of_isEnd {t : Placed} (ht : IsEnd t.token) (r : List Placed) :
    halt (skipEntry (t :: r)) = ⟨none, t :: r⟩ := by
  rw [skipEntry, if_pos (by rcases ht with h | h <;> simp [h])]
  rfl

theorem skipEntry_of_closing {rest : List Placed} (h : Closing rest) :
    halt (skipEntry rest) = ⟨none, rest⟩ := by
  obtain ⟨u, r, rfl, hu⟩ := h
  exact skipEntry_of_isEnd (.inr hu) r

theorem skipEntry_group {t : Placed} (ht : t.token = .leftParen) (r : List Placed) :
    halt (skipEntry (t :: r)) = (halt (closeGroup 0 r)).andThen fun ts => halt (skipEntry ts) := by
  have hskip : skipGroup (t :: r) = closeGroup 0 r := if_pos ht
  rw [skipEntry, if_neg (by simp [ht]), if_pos ht, ← hskip]
  split
  · next heq =>
    rw [heq]
    rfl
  · next heq =>
    rw [heq]
    rfl

theorem skipEntry_cons {t : Placed} (ht : ¬ IsEnd t.token) (hleft : t.token ≠ .leftParen)
    (r : List Placed) : skipEntry (t :: r) = skipEntry r := by
  rw [skipEntry, if_neg (by simpa [IsEnd] using ht), if_neg hleft]

theorem skipEntry_viable (ts : List Placed) :
    Viable Closing (fun _ ts => halt (skipEntry ts)) source ts := by
  induction hlength : ts.length using Nat.strongRecOn generalizing ts with
  | ind n ih =>
    subst hlength
    cases ts with
    | nil =>
      exact .nil_idle (fun _ => by rw [skipEntry]; rfl) fun _ _ => skipEntry_of_closing
    | cons t r =>
      by_cases ht : IsEnd t.token
      · exact .stop none fun _ _ r' h => skipEntry_of_isEnd (h ▸ ht) r'
      by_cases hleft : t.token = .leftParen
      · have hgroup : Viable (fun _ => True) (fun _ ts => halt (closeGroup 0 ts)) source r :=
          closeGroup_viable 0 r
        have hmore : Viable Closing (fun _ ts => halt (skipEntry ts)) source
            (halt (closeGroup 0 r)).left := ih _ (Nat.lt_succ_of_le hgroup.suffix.length_le) _ rfl
        exact .cons (fun _ _ r' h => skipEntry_group (h.trans hleft) r')
          (hgroup.andThen_idle (fun _ => hmore) (fun _ _ => trivial) fun _ _ => skipEntry_of_closing)
      · refine .cons (fun _ _ r' h => ?_) (ih _ (Nat.lt_succ_self _) r rfl)
        rw [skipEntry_cons (h ▸ ht) (h ▸ hleft)]

theorem entry_viable (t : Placed) (r : List Placed) :
    Viable Closing (fun source ts => haltRead (entry source ts)) source (t :: r) := by
  cases ht : t.token.isAnyKeyword tableConstraintKeywords with
  | true =>
    refine .like (fun source' t' r' h => ?_) (skipEntry_viable (t :: r))
    rw [entry, h, ht, if_pos rfl]
    cases skipEntry (t' :: r') <;> rfl
  | false =>
    refine .like (fun source' t' r' h => ?_) (column_viable t r)
    rw [entry, h, ht, if_neg Bool.false_ne_true]
    exact haltRead_map _ some

/-! ## Column lists -/

/-- What stands behind an entry: a comma and more entries, or the end of the list. -/
def afterEntry (source : Text) : List Placed → Halt
  | [] => ⟨some .unterminatedList, []⟩
  | t :: r =>
    match t.token with
    | .comma => haltRead (entries source r)
    | .rightParen => ⟨none, r⟩
    | _ => ⟨some .expectedSeparator, t :: r⟩

theorem entries_of_rightParen (source : Text) {t : Placed} (ht : t.token = .rightParen)
    (r : List Placed) : haltRead (entries source (t :: r)) = ⟨none, r⟩ := by
  rw [entries, if_pos ht]
  rfl

theorem entries_cons_eq (source : Text) {t : Placed} (ht : t.token ≠ .rightParen)
    (r : List Placed) : haltRead (entries source (t :: r))
      = (haltRead (entry source (t :: r))).andThen (afterEntry source) := by
  rw [entries, if_neg ht]
  split
  · next heq =>
    rw [heq]
    rfl
  · next heq =>
    rw [heq]
    rfl
  · next c s rest heq =>
    rw [heq]
    simp only [haltRead, Except.map, halt, Halt.andThen, afterEntry]
    cases s.token with
    | comma => cases entries source rest <;> rfl
    | _ => rfl

theorem entries_viable (ts : List Placed) :
    Viable follows (fun source ts => haltRead (entries source ts)) source ts := by
  induction hlength : ts.length using Nat.strongRecOn generalizing ts with
  | ind n ih =>
    subst hlength
    cases ts with
    | nil =>
      refine .nil (some .unterminatedList) (fun _ => by rw [entries]; rfl)
        ⟨[anyClosing], noBlanks_singleton Token.noConfusion, fun source' rest _ => ?_⟩
      exact entries_of_rightParen source' rfl rest
    | cons t r =>
      by_cases ht : t.token = .rightParen
      · exact .cons (fun source' _ r' h => entries_of_rightParen source' (h.trans ht) r') .idle
      have hentry : Viable Closing (fun source ts => haltRead (entry source ts)) source (t :: r) :=
        entry_viable t r
      refine .like (fun source' _ r' h => entries_cons_eq source' (h ▸ ht) r')
        (hentry.andThen ?_ ?_)
      · intro _
        have hlength := hentry.suffix.length_le
        cases hbehind : (haltRead (entry source (t :: r))).left with
        | nil =>
          refine .nil (some .unterminatedList) (fun _ => rfl)
            ⟨[anyClosing], noBlanks_singleton Token.noConfusion, fun _ _ _ => rfl⟩
        | cons u behind =>
          rw [hbehind] at hlength
          cases hu : u.token with
          | comma => exact .cons (fun _ _ _ h => by simp [afterEntry, h, hu]) (ih _ hlength behind rfl)
          | rightParen => exact .cons (fun _ _ _ h => by simp [afterEntry, h, hu]) .idle
          | _ => exact .stop (some .expectedSeparator) fun _ _ _ h => by simp [afterEntry, h, hu]
      · exact ⟨[anyClosing], noBlanks_singleton Token.noConfusion,
          fun _ rest _ => ⟨closing_anyClosing rest, rfl⟩⟩

/-! ## Tables -/

/-- What stands behind the name of a table: its column list. -/
def columnList (source : Text) : List Placed → Halt
  | [] => ⟨some .expectedColumnList, []⟩
  | t :: r =>
    if t.token = .leftParen then haltRead (entries source r)
    else ⟨some .expectedColumnList, t :: r⟩

theorem columnList_viable (ts : List Placed) : Viable follows columnList source ts := by
  cases ts with
  | nil =>
    refine .nil (some .expectedColumnList) (fun _ => rfl) ⟨[anyOpening, anyClosing], ?_, ?_⟩
    · simp [NoBlanks, anyOpening, anyClosing]
    · exact fun source' rest _ => entries_of_rightParen source' rfl rest
  | cons t r =>
    by_cases ht : t.token = .leftParen
    · exact .cons (fun _ _ _ h => by rw [columnList, if_pos (h.trans ht)]) (entries_viable r)
    · exact .stop (some .expectedColumnList) fun _ _ _ h => by rw [columnList, if_neg (h ▸ ht)]

theorem table_eq (source : Text) (ts : List Placed) : haltRead (table source ts)
    = (haltRead (qualifiedName .table ts)).andThen (columnList source) := by
  rw [table]
  rcases qualifiedName .table ts with e | ⟨name, _ | ⟨t, r⟩⟩
  · rfl
  · rfl
  · by_cases ht : t.token = .leftParen
    · simp only [ht, if_true, haltRead, Except.map, halt, Halt.andThen, columnList]
      cases entries source r <;> rfl
    · simp only [ht, if_false, haltRead, Except.map, halt, Halt.andThen, columnList]

/-- Behind its header, a table definition is read with one token of lookahead, and what
is read of it can be completed. -/
theorem table_viable (ts : List Placed) :
    Viable follows (fun source ts => haltRead (table source ts)) source ts := by
  simp only [table_eq]
  refine (qualifiedName_viable .table ts).andThen (fun _ => columnList_viable _) ?_
  refine ⟨[anyOpening, anyClosing], by simp [NoBlanks, anyOpening, anyClosing], ?_⟩
  intro source' rest _
  refine ⟨?_, entries_of_rightParen source' rfl rest⟩
  simp [EndsName, anyOpening]

end TableScaffold.Grammar
