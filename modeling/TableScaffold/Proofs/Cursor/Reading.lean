import TableScaffold.Proofs.Cursor.Machine
import TableScaffold.Proofs.Table.Listing
import TableScaffold.Proofs.Table.Viable

set_option autoImplicit false

/-!
# What is left to read

What is left to read in a state of the cursor is read by the readers of the grammar:
`State.answer` is what comes of a definition from a state on.  The readers are taken
apart as the cursor meets their parts, each by an equation of its own
(`listReading_cons`, `clausesReading_cons`, `typeReading_eq`, `referencedReading_eq`).
-/

namespace TableScaffold.Cursor

open Grammar
open Sql (Placed Token)

/-! ## The tokens that are left -/

section Left

variable {ts : List Placed} {pos : Nat}

/-- The cursor stands on the first of the tokens that are left, or at their end. -/
theorem left_cases (ts : List Placed) (pos : Nat) :
    token? ts pos = none ∧ ts.drop pos = []
      ∨ ∃ t, ts[pos]? = some t ∧ token? ts pos = some t.token
        ∧ ts.drop pos = t :: ts.drop (pos + 1) := by
  unfold token?
  rcases Nat.lt_or_ge pos ts.length with h | h
  · refine .inr ⟨ts[pos], List.getElem?_eq_getElem h, ?_, List.drop_eq_getElem_cons h⟩
    rw [List.getElem?_eq_getElem h]
    rfl
  · refine .inl ⟨?_, List.drop_eq_nil_of_le h⟩
    rw [List.getElem?_eq_none h]
    rfl

theorem token?_eq_head? (ts : List Placed) (pos : Nat) :
    token? ts pos = (ts.drop pos).head?.map Placed.token := by
  rw [token?, List.head?_drop]

theorem word?_eq_peekWord? (ts : List Placed) (pos : Nat) :
    word? ts pos = peekWord? (ts.drop pos) := by
  rw [word?, token?_eq_head?]
  cases ts.drop pos with
  | nil => rfl
  | cons t r =>
    rw [List.head?_cons, Option.map_some, peekWord?]
    cases t.token <;> rfl

end Left

/-! ## Headers -/

/-- Keywords stand at a place if the tokens from there on begin with them. -/
theorem all_keywords (keywords : List Text) (ts : List Placed) (pos offset : Nat) :
    (keywords.zipIdx offset).all (fun k => (token? ts (pos + k.2)).any (·.isKeyword k.1))
      = (afterKeywords? keywords (ts.drop (pos + offset))).isSome := by
  induction keywords generalizing offset with
  | nil => rfl
  | cons keyword keywords ih =>
    rw [List.zipIdx_cons, List.all_cons, ih, afterKeywords?]
    rcases left_cases ts (pos + offset) with ⟨htoken, hleft⟩ | ⟨t, -, htoken, hleft⟩
    · rw [htoken, hleft]
      rfl
    · rw [htoken, hleft, Option.any_some, afterKeyword?, Nat.add_assoc]
      cases t.token.isKeyword keyword <;> rfl

theorem isHeaderAt_eq (ts : List Placed) (pos : Nat) :
    isHeaderAt ts pos = (afterKeywords? headerKeywords (ts.drop pos)).isSome :=
  all_keywords headerKeywords ts pos 0

theorem afterKeywords?_eq_drop {keywords : List Text} {ts rest : List Placed}
    (h : afterKeywords? keywords ts = some rest) : rest = ts.drop keywords.length := by
  obtain ⟨used, rfl, hused⟩ := afterKeywords?_eq_some.mp h
  have hlength : keywords.length = used.length := by
    rw [hused.length_eq, List.length_map]
  rw [hlength, List.drop_left]

/-- The first header is found from its place. -/
theorem afterHeader?_eq (ts : List Placed) : afterHeader? ts = (behindHeader? ts).map ts.drop := by
  induction ts with
  | nil => rfl
  | cons t r ih =>
    have hbegin : isHeaderAt (t :: r) 0 = (afterKeywords? headerKeywords (t :: r)).isSome :=
      isHeaderAt_eq (t :: r) 0
    have htail : isHeaderAt (t :: r) ∘ Nat.succ = isHeaderAt r := by
      funext pos
      rw [Function.comp_apply, isHeaderAt_eq, isHeaderAt_eq, List.drop_succ_cons]
    rw [afterHeader?, behindHeader?, List.length_cons, List.range_succ_eq_map, List.find?_cons,
      hbegin, List.find?_map, htail]
    cases hkeywords : afterKeywords? headerKeywords (t :: r) with
    | some rest =>
      simp only [Option.isSome_some, Option.map_some, Nat.zero_add]
      rw [afterKeywords?_eq_drop hkeywords]
    | none =>
      simp only [Option.isSome_none]
      rw [ih, behindHeader?]
      cases (List.range r.length).find? (isHeaderAt r) with
      | none => rfl
      | some pos => simp [Nat.succ_add]

/-! ## What is left to read -/

section Reading

variable (source : Text) (name : Text) (columns : List Column)

/-- What is left of a column list: more entries. -/
def listReading (left : List Placed) : Result Table :=
  (entries source left).map fun p => (⟨name, columns ++ p.1⟩, p.2)

/-- What is left of a column list behind an entry. -/
def separatorReading : List Placed → Result Table
  | [] => .error (.unterminatedList, [])
  | t :: r =>
    match t.token with
    | .comma => listReading source name columns r
    | .rightParen => .ok (⟨name, columns⟩, r)
    | _ => .error (.expectedSeparator, t :: r)

/-- What is left behind a constraint of the whole table that has begun. -/
def tableConstraintReading (left : List Placed) : Result Table :=
  (skipEntry left).bind (separatorReading source name columns)

/-- What is left behind the first constraints of a column. -/
def clausesReading (c : Pending) (left : List Placed) : Result Table :=
  (constraints source left).bind fun p =>
    separatorReading source name
      (columns ++ [{ c with constraints := c.constraints ++ p.1 }.column]) p.2

/-- What is left behind a group, if one comes next, or else from there on. -/
def maybeGroup (behind otherwise : List Placed → Result Table) (left : List Placed) :
    Result Table :=
  if left.head?.map Placed.token = some .leftParen then (skipGroup left).bind behind
  else otherwise left

/-- What is left behind the last words of a type. -/
def moreWordsReading (c : Pending) (left : List Placed) : Result Table :=
  clausesReading source name columns { c with words := c.words ++ (typeWords left).1 }
    (typeWords left).2

/-- What is left behind the words of a type. -/
def endTypeReading (again : Bool) (c : Pending) (left : List Placed) : Result Table :=
  if again then clausesReading source name columns c left
  else if c.words = [] then .error (.expectedType c.name, left)
  else maybeGroup (moreWordsReading source name columns c)
    (clausesReading source name columns c) left

/-- What is left behind the first words of a type. -/
def typeReading (again : Bool) (c : Pending) (left : List Placed) : Result Table :=
  endTypeReading source name columns again { c with words := c.words ++ (typeWords left).1 }
    (typeWords left).2

/-- What is left behind a default expression and its tokens. -/
def textReading (c : Pending) (used left : List Placed) : Result Table :=
  match used with
  | [] => .error (.expectedExpression, left)
  | t :: r =>
    clausesReading source name columns
      (c.add (.default (expressionText source t ((t :: r).getLast (List.cons_ne_nil t r))))) left

/-- What is left behind the name of a referenced table. -/
def referencedReading (c : Pending) (table : Text) (left : List Placed) : Result Table :=
  maybeGroup (clausesReading source name columns (c.add (.references table (peekWord? left.tail))))
    (clausesReading source name columns (c.add (.references table none))) left

/-- What is left behind a qualified name. -/
def nameReading (part : Text) (of : NameOf) (left : List Placed) : Result Table :=
  match of with
  | .table =>
    match left with
    | [] => .error (.expectedColumnList, [])
    | t :: r =>
      if t.token = .leftParen then listReading source part columns r
      else .error (.expectedColumnList, t :: r)
  | .reference c => referencedReading source name columns c part left

/-- What is left behind a group. -/
def aroundReading : Around → List Placed → Result Table
  | .type c => moreWordsReading source name columns c
  | .clauses c => clausesReading source name columns c
  | .reference c table referenced =>
    clausesReading source name columns (c.add (.references table referenced))
  | .tableConstraint => tableConstraintReading source name columns

end Reading

section Answer

variable (source : Text) (ts : List Placed)

/-- What comes of a definition of which a table is read, or a fault is found. -/
def conclude : Result Table → Except SchemaError Table
  | .ok (table, _) => .ok table
  | .error (fault, left) => .error (.malformed fault (faultLocation ts left))

/-- What comes of a definition when the header is left to read. -/
def headerAnswer (name : Text) (columns : List Column) (left : List Placed) :
    Except SchemaError Table :=
  match afterHeader? left with
  | none => .error .tableNotFound
  | some body => conclude ts ((qualifiedName .table body).bind fun p =>
      nameReading source name columns p.1 .table p.2)

/-- What comes of a definition from a state on, when the readers of the grammar read what
is left. -/
def State.answer (s : State) : Except SchemaError Table :=
  let left := ts.drop s.pos
  match s.point with
  | .header => headerAnswer source ts s.name s.columns left
  | .name of => conclude ts
      ((qualifiedName of.use left).bind fun p => nameReading source s.name s.columns p.1 of p.2)
  | .behindName of part => conclude ts
      ((nameAfter of.use part left).bind fun p => nameReading source s.name s.columns p.1 of p.2)
  | .namePart of => conclude ts
      ((afterPeriod of.use left).bind fun p => nameReading source s.name s.columns p.1 of p.2)
  | .columnList => conclude ts (nameReading source s.name s.columns s.name .table left)
  | .entries => conclude ts (listReading source s.name s.columns left)
  | .columnName => conclude ts
      ((column source left).bind fun p => separatorReading source s.name (s.columns ++ [p.1]) p.2)
  | .typeWords c again => conclude ts (typeReading source s.name s.columns again c left)
  | .clauses c => conclude ts (clausesReading source s.name s.columns c left)
  | .second c keyword k => conclude ts
      (clausesReading source s.name s.columns
        { c with constraints := c.constraints ++ (pairConstraint keyword k left).1.toList }
        (pairConstraint keyword k left).2)
  | .constraintName c => conclude ts
      (clausesReading source s.name s.columns c
        (if (peekWord? left).isSome then left.tail else left))
  | .expression c first depth => conclude ts
      (textReading source s.name s.columns c
        ((ts.take s.pos).drop first ++ (expressionTokens depth (s.pos == first) left).1)
        (expressionTokens depth (s.pos == first) left).2)
  | .expressionText c first => conclude ts
      (textReading source s.name s.columns c ((ts.take s.pos).drop first) left)
  | .referenced c table => conclude ts (referencedReading source s.name s.columns c table left)
  | .openGroup around => conclude ts
      ((skipGroup left).bind (aroundReading source s.name s.columns around))
  | .group around 0 => conclude ts (aroundReading source s.name s.columns around left)
  | .group around (depth + 1) => conclude ts
      ((closeGroup depth left).bind (aroundReading source s.name s.columns around))
  | .tableConstraint => conclude ts (tableConstraintReading source s.name s.columns left)
  | .separator => conclude ts (separatorReading source s.name s.columns left)
  | .finished => .ok ⟨s.name, s.columns⟩
  | .failed fault => conclude ts (.error (fault, left))
  | .noHeader | .trapped _ => .error .tableNotFound

end Answer

/-! ## Readers of the grammar, in parts -/

section Readers

variable {source name : Text} {columns : List Column} {t : Placed} {r : List Placed}

theorem listReading_cons (ht : t.token ≠ .rightParen) (r : List Placed) :
    listReading source name columns (t :: r) = (entry source (t :: r)).bind fun p =>
      separatorReading source name (columns ++ p.1.toList) p.2 := by
  unfold listReading
  rw [entries, if_neg ht]
  split
  · next heq =>
    rw [heq]
    rfl
  · next heq =>
    rw [heq]
    rfl
  · next c u rest heq =>
    rw [heq]
    dsimp only [Except.bind]
    rw [separatorReading]
    cases u.token with
    | comma =>
      dsimp only
      unfold listReading
      cases entries source rest with
      | error e => rfl
      | ok p => simp [Except.map]
    | _ => rfl

theorem clausesReading_isEnd {c : Pending} (ht : IsEnd t.token) (r : List Placed) :
    clausesReading source name columns c (t :: r)
      = separatorReading source name (columns ++ [c.column]) (t :: r) := by
  unfold clausesReading
  rw [constraints_of_isEnd ht]
  dsimp only [Except.bind]
  rw [List.append_nil]

theorem clausesReading_cons {c : Pending} (ht : ¬ IsEnd t.token) (r : List Placed) :
    clausesReading source name columns c (t :: r) = (constraint source t r).bind fun p =>
      clausesReading source name columns
        { c with constraints := c.constraints ++ p.1.toList } p.2 := by
  unfold clausesReading
  cases hread : constraint source t r with
  | error e =>
    rw [constraints, if_neg (by simpa [IsEnd] using ht)]
    split
    · next heq =>
      rw [hread] at heq
      cases heq
      rfl
    · next heq =>
      rw [hread] at heq
      cases heq
  | ok p =>
    rw [constraints_cons ht hread]
    dsimp only [Except.bind]
    cases constraints source p.2 with
    | error e => rfl
    | ok q => simp [Except.map]

theorem maybeGroup_nil (behind otherwise : List Placed → Result Table) :
    maybeGroup behind otherwise [] = otherwise [] := if_neg nofun

theorem maybeGroup_of_left (behind otherwise : List Placed → Result Table)
    (ht : t.token = .leftParen) (r : List Placed) :
    maybeGroup behind otherwise (t :: r) = (skipGroup (t :: r)).bind behind :=
  if_pos (congrArg some ht)

theorem maybeGroup_of_ne (behind otherwise : List Placed → Result Table)
    (ht : t.token ≠ .leftParen) (r : List Placed) :
    maybeGroup behind otherwise (t :: r) = otherwise (t :: r) :=
  if_neg fun h => ht (Option.some.inj h)

/-- A default value, by its tokens. -/
theorem textReading_eq (c : Pending) (left : List Placed) :
    textReading source name columns c (expressionTokens 0 true left).1
        (expressionTokens 0 true left).2
      = ((defaultValue source left).map fun p => (some p.1, p.2)).bind fun p =>
        clausesReading source name columns
          { c with constraints := c.constraints ++ p.1.toList } p.2 := by
  unfold defaultValue
  rcases expressionTokens 0 true left with ⟨_ | ⟨u, us⟩, rest⟩ <;> rfl

/-- A reference, by its name and the group behind it. -/
theorem referencedReading_eq (c : Pending) (left : List Placed) :
    ((qualifiedName .referencedTable left).bind fun p =>
        referencedReading source name columns c p.1 p.2)
      = ((reference left).map fun p => (some p.1, p.2)).bind fun p =>
        clausesReading source name columns
          { c with constraints := c.constraints ++ p.1.toList } p.2 := by
  unfold reference
  rcases qualifiedName .referencedTable left with e | ⟨table, _ | ⟨u, us⟩⟩
  · rfl
  · rfl
  · dsimp only [Except.bind]
    rw [referencedReading]
    by_cases hu : u.token = .leftParen
    · rw [maybeGroup_of_left _ _ hu, if_pos hu]
      cases skipGroup (u :: us) <;> rfl
    · rw [maybeGroup_of_ne _ _ hu, if_neg hu]
      rfl

/-- A word of a type that begins no constraint. -/
theorem typeReading_cons {value : Text} {quoted : Bool} (ht : t.token = .word value quoted)
    (hkeyword : ¬ (Token.word value quoted).isAnyKeyword constraintKeywords = true) {again : Bool}
    {c : Pending} (r : List Placed) : typeReading source name columns again c (t :: r)
      = typeReading source name columns again (c.addWord value) r := by
  have hwords : typeWords (t :: r) = (value :: (typeWords r).1, (typeWords r).2) := by
    rw [typeWords, ht]
    exact if_neg hkeyword
  rw [typeReading, typeReading, hwords, Pending.addWord, List.append_assoc]
  rfl

/-- A column, by its type and its constraints. -/
theorem typeReading_eq {value : Text} {quoted : Bool} (ht : t.token = .word value quoted)
    (r : List Placed) : typeReading source name columns false { name := value } r
      = (column source (t :: r)).bind fun p =>
        separatorReading source name (columns ++ [p.1]) p.2 := by
  have hclauses (words : List Text) (rest : List Placed) :
      clausesReading source name columns { name := value, words := words } rest
        = (constraints source rest).bind fun p => separatorReading source name
          (columns ++ [⟨value, Text.join [' '] words, p.1⟩]) p.2 := rfl
  rw [column]
  simp only [ht]
  unfold columnType typeReading endTypeReading
  rcases typeWords r with ⟨_ | ⟨word, words⟩, _ | ⟨u, us⟩⟩
  · rfl
  · rfl
  · simp only [maybeGroup_nil, List.nil_append, hclauses]
    cases constraints source [] <;> rfl
  · by_cases hu : u.token = .leftParen
    · simp only [maybeGroup_of_left _ _ hu, if_pos hu]
      cases skipGroup (u :: us) with
      | error e => rfl
      | ok rest =>
        simp only [Except.bind, moreWordsReading, hclauses]
        cases constraints source (typeWords rest).2 <;> rfl
    · simp only [maybeGroup_of_ne _ _ hu, if_neg hu, hclauses]
      cases constraints source (u :: us) <;> rfl

/-- A table, by its name and its column list. -/
theorem nameReading_eq (source : Text) (body : List Placed) :
    ((qualifiedName .table body).bind fun p => nameReading source [] [] p.1 .table p.2)
      = table source body := by
  unfold table
  rcases qualifiedName .table body with e | ⟨part, _ | ⟨t, r⟩⟩
  · rfl
  · rfl
  · dsimp only [Except.bind]
    rw [nameReading]
    split
    · unfold listReading
      cases entries source r <;> rfl
    · rfl

theorem headerAnswer_eq (source : Text) (ts : List Placed) :
    headerAnswer source ts [] [] ts = Table.ofTokens source ts := by
  unfold headerAnswer Table.ofTokens
  cases afterHeader? ts with
  | none => rfl
  | some body =>
    dsimp only
    rw [nameReading_eq]
    cases table source body <;> rfl

theorem tableConstraintReading_cons (ht : ¬ IsEnd t.token) (hleft : t.token ≠ .leftParen)
    (r : List Placed) : tableConstraintReading source name columns (t :: r)
      = tableConstraintReading source name columns r := by
  unfold tableConstraintReading
  rw [skipEntry_cons ht hleft]

theorem tableConstraintReading_group (ht : t.token = .leftParen) (r : List Placed) :
    tableConstraintReading source name columns (t :: r)
      = (skipGroup (t :: r)).bind (tableConstraintReading source name columns) := by
  unfold tableConstraintReading
  rw [skipEntry, if_neg (by simp [ht]), if_pos ht]
  split
  · next heq =>
    rw [heq]
    rfl
  · next heq =>
    rw [heq]
    rfl

end Readers

end TableScaffold.Cursor
