import TableScaffold.Table.Basic
import TableScaffold.Table.Fault
import TableScaffold.Sql.Statement

/-!
# The grammar of table definitions

    statement   := ... CREATE TABLE IF NOT EXISTS name '(' entry { ',' entry } ')' ...
    name        := word { '.' word }
    entry       := table constraint | column
    column      := word type words [ '(' ... ')' ] [ type words ] { constraint }
    constraint  := NOT NULL | NULL | PRIMARY KEY | UNIQUE | DEFAULT expression
                 | REFERENCES name [ '(' word ')' ] | CONSTRAINT word | anything else

A reader takes the tokens that are left, blanks dropped, and answers what it read
with the tokens behind it.  A reader that fails answers the tokens it had left,
so that the place of the fault is the first of them.
-/

namespace TableScaffold.Grammar

open Sql (Placed Token)

/-- A fault with the tokens that were left when it was found. -/
abbrev Failure := GrammarFault × List Placed

/-- What was read, with the tokens behind it. -/
abbrev Result (α : Type) := Except Failure (α × List Placed)

/-! ## Keywords -/

/-- The words that begin a table definition. -/
def headerKeywords : List Text := ["CREATE", "TABLE", "IF", "NOT", "EXISTS"].map String.toList

/-- The words that end a column's type and a default expression. -/
def constraintKeywords : List Text :=
  ["NOT", "NULL", "PRIMARY", "UNIQUE", "DEFAULT", "REFERENCES", "CHECK", "CONSTRAINT",
    "GENERATED", "COLLATE"].map String.toList

/-- The words that begin a constraint of the whole table. -/
def tableConstraintKeywords : List Text :=
  ["PRIMARY", "FOREIGN", "UNIQUE", "CONSTRAINT", "CHECK", "EXCLUDE"].map String.toList

/-- The tokens behind one keyword, if they begin with it. -/
def afterKeyword? (keyword : Text) : List Placed → Option (List Placed)
  | [] => none
  | t :: r => if t.token.isKeyword keyword then some r else none

/-- The tokens behind keywords in a row, if they begin with them. -/
def afterKeywords? : List Text → List Placed → Option (List Placed)
  | [], ts => some ts
  | k :: ks, ts => (afterKeyword? k ts).bind (afterKeywords? ks)

/-- The tokens behind the first table header. -/
def afterHeader? : List Placed → Option (List Placed)
  | [] => none
  | t :: r =>
    match afterKeywords? headerKeywords (t :: r) with
    | some rest => some rest
    | none => afterHeader? r

/-! ## Groups and names -/

/-- The tokens behind a group in parentheses of which everything up to here is
read; `depth` groups are open within it. -/
def closeGroup (depth : Nat) : List Placed → Except Failure (List Placed)
  | [] => .error (.unbalancedGroup, [])
  | t :: r =>
    match t.token, depth with
    | .leftParen, depth => closeGroup (depth + 1) r
    | .rightParen, 0 => .ok r
    | .rightParen, depth + 1 => closeGroup depth r
    | _, depth => closeGroup depth r

/-- The tokens behind a group in parentheses. -/
def skipGroup : List Placed → Except Failure (List Placed)
  | [] => .error (.expectedGroup, [])
  | t :: r =>
    if t.token = .leftParen then closeGroup 0 r else .error (.expectedGroup, t :: r)

/-- The last part of a qualified name of which `name` is already read. -/
def nameAfter (use : NameUse) (name : Text) : List Placed → Result Text
  | [] => .ok (name, [])
  | [t] =>
    if t.token = .period then .error (.expectedNameAfterPeriod use, []) else .ok (name, [t])
  | t :: w :: r =>
    if t.token = .period then
      match w.token with
      | .word part _ => nameAfter use part r
      | _ => .error (.expectedNameAfterPeriod use, w :: r)
    else .ok (name, t :: w :: r)

/-- The last part of a qualified name. -/
def qualifiedName (use : NameUse) : List Placed → Result Text
  | [] => .error (.expectedName use, [])
  | t :: r =>
    match t.token with
    | .word name _ => nameAfter use name r
    | _ => .error (.expectedName use, t :: r)

/-! ## Columns -/

/-- The words of a type, up to a token that is no word or begins a constraint. -/
def typeWords : List Placed → List Text × List Placed
  | [] => ([], [])
  | t :: r =>
    match t.token with
    | .word value quoted =>
      if (Token.word value quoted).isAnyKeyword constraintKeywords then ([], t :: r)
      else (value :: (typeWords r).1, (typeWords r).2)
    | _ => ([], t :: r)

/-- The number of open parentheses behind a token of a default expression, or
`none` if the token is not part of it.  The expression ends outside all
parentheses at a comma, a closing parenthesis or, unless that is its first token,
the keyword of a constraint. -/
def expressionDepth? (depth : Nat) (first : Bool) (token : Token) : Option Nat :=
  match token, depth with
  | .leftParen, depth => some (depth + 1)
  | .rightParen, 0 => none
  | .rightParen, depth + 1 => some depth
  | .comma, 0 => none
  | token, 0 => if !first && token.isAnyKeyword constraintKeywords then none else some 0
  | _, depth => some depth

/-- The tokens of a default expression and those behind it. -/
def expressionTokens (depth : Nat) (first : Bool) : List Placed → List Placed × List Placed
  | [] => ([], [])
  | t :: r =>
    match expressionDepth? depth first t.token with
    | some depth =>
      (t :: (expressionTokens depth false r).1, (expressionTokens depth false r).2)
    | none => ([], t :: r)

/-- The source text of an expression from its first to its last token. -/
def expressionText (source : Text) (first last : Placed) : Text :=
  Text.trim (Text.slice source (Text.byteOffset source first.first)
    (Text.byteOffset source last.last))

/-- A default value, the keyword of which is already read. -/
def defaultValue (source : Text) (ts : List Placed) : Result Constraint :=
  match expressionTokens 0 true ts with
  | ([], rest) => .error (.expectedExpression, rest)
  | (t :: r, rest) =>
    .ok (.default (expressionText source t ((t :: r).getLast (by simp))), rest)

/-- A word, if one comes next. -/
def peekWord? : List Placed → Option Text
  | [] => none
  | t :: _ =>
    match t.token with
    | .word value _ => some value
    | _ => none

/-- A reference to another table, the keyword of which is already read.  The
column is the word that begins the group behind the table's name. -/
def reference (ts : List Placed) : Result Constraint :=
  match qualifiedName .referencedTable ts with
  | .error e => .error e
  | .ok (table, []) => .ok (.references table none, [])
  | .ok (table, t :: r) =>
    if t.token = .leftParen then
      match skipGroup (t :: r) with
      | .error e => .error e
      | .ok rest => .ok (.references table (peekWord? r), rest)
    else .ok (.references table none, t :: r)

/-- What a keyword and a second one behind it stand for; without the second one
the first stands for nothing. -/
def pairConstraint (second : String) (c : Constraint) (r : List Placed) :
    Option Constraint × List Placed :=
  match afterKeyword? second.toList r with
  | some rest => (some c, rest)
  | none => (none, r)

/-- One constraint or one token that is none, from its first token and the tokens
behind it.  The name behind `CONSTRAINT` and a group in parentheses are skipped
as a whole. -/
def constraint (source : Text) (t : Placed) (r : List Placed) : Result (Option Constraint) :=
  let keyword (k : String) : Bool := t.token.isKeyword k.toList
  if t.token = .leftParen then (skipGroup (t :: r)).map (none, ·)
  else if keyword "NOT" then .ok (pairConstraint "NULL" .notNull r)
  else if keyword "NULL" then .ok (some .null, r)
  else if keyword "PRIMARY" then .ok (pairConstraint "KEY" .primaryKey r)
  else if keyword "UNIQUE" then .ok (some .unique, r)
  else if keyword "DEFAULT" then (defaultValue source r).map fun p => (some p.1, p.2)
  else if keyword "REFERENCES" then (reference r).map fun p => (some p.1, p.2)
  else if keyword "CONSTRAINT" then .ok (none, if (peekWord? r).isSome then r.tail else r)
  else .ok (none, r)

/-! ## Readers never give tokens back -/

theorem closeGroup_length {depth : Nat} {ts rest : List Placed}
    (h : closeGroup depth ts = .ok rest) : rest.length < ts.length := by
  fun_induction closeGroup depth ts with
  | case1 => simp at h
  | case2 => simp_all; omega
  | case3 => simp_all
  | case4 => simp_all; omega
  | case5 => simp_all; omega

theorem skipGroup_length {ts rest : List Placed} (h : skipGroup ts = .ok rest) :
    rest.length < ts.length := by
  cases ts with
  | nil => simp [skipGroup] at h
  | cons t r =>
    rw [skipGroup] at h
    split at h
    · have := closeGroup_length h
      simp only [List.length_cons]
      omega
    · simp at h

theorem nameAfter_length {use : NameUse} {name part : Text} {ts rest : List Placed}
    (h : nameAfter use name ts = .ok (part, rest)) : rest.length ≤ ts.length := by
  fun_induction nameAfter use name ts with
  | case1 => simp_all
  | case2 => simp at h
  | case3 => simp_all
  | case4 _ t w r _ part' _ _ ih =>
    have := ih h
    simp only [List.length_cons]
    omega
  | case5 => simp at h
  | case6 =>
    simp only [Except.ok.injEq, Prod.mk.injEq] at h
    simp [← h.2]

theorem qualifiedName_length {use : NameUse} {part : Text} {ts rest : List Placed}
    (h : qualifiedName use ts = .ok (part, rest)) : rest.length < ts.length := by
  cases ts with
  | nil => simp [qualifiedName] at h
  | cons t r =>
    rw [qualifiedName] at h
    split at h
    · have := nameAfter_length h
      simp only [List.length_cons]
      omega
    · simp at h

theorem typeWords_length (ts : List Placed) : (typeWords ts).2.length ≤ ts.length := by
  fun_induction typeWords ts with
  | case1 => simp
  | case2 => simp
  | case3 t r _ _ _ _ ih =>
    simp only [List.length_cons]
    omega
  | case4 => simp

/-- The tokens of an expression and those behind it make up all tokens. -/
theorem expressionTokens_append (depth : Nat) (first : Bool) (ts : List Placed) :
    (expressionTokens depth first ts).1 ++ (expressionTokens depth first ts).2 = ts := by
  fun_induction expressionTokens depth first ts <;> simp_all

theorem defaultValue_length {source : Text} {ts rest : List Placed} {c : Constraint}
    (h : defaultValue source ts = .ok (c, rest)) : rest.length ≤ ts.length := by
  have happ := congrArg List.length (expressionTokens_append 0 true ts)
  rw [defaultValue] at h
  split at h
  · simp at h
  · next heq =>
    simp only [heq, List.length_append, Except.ok.injEq, Prod.mk.injEq] at happ h
    rw [← h.2]
    omega

theorem reference_length {ts rest : List Placed} {c : Constraint}
    (h : reference ts = .ok (c, rest)) : rest.length ≤ ts.length := by
  rw [reference] at h
  split at h
  · simp at h
  · next heq =>
    have := qualifiedName_length heq
    simp_all
  · next heq =>
    have := qualifiedName_length heq
    split at h
    · split at h
      · simp at h
      · next hg =>
        have := skipGroup_length hg
        simp only [Except.ok.injEq, Prod.mk.injEq] at h
        rw [← h.2]
        omega
    · simp only [Except.ok.injEq, Prod.mk.injEq] at h
      rw [← h.2]
      omega

theorem pairConstraint_length (second : String) (c : Constraint) (r : List Placed) :
    (pairConstraint second c r).2.length ≤ r.length := by
  cases r with
  | nil => simp [pairConstraint, afterKeyword?]
  | cons t r =>
    by_cases h : t.token.isKeyword second.toList <;> simp [pairConstraint, afterKeyword?, h]

theorem map_rest {α β : Type} {x : Result α} {f : α → β} {y : β} {rest : List Placed}
    (h : (x.map fun p => (f p.1, p.2)) = .ok (y, rest)) : ∃ a, x = .ok (a, rest) := by
  cases x with
  | error e => simp [Except.map] at h
  | ok p =>
    simp only [Except.map, Except.ok.injEq, Prod.mk.injEq] at h
    exact ⟨p.1, by rw [← h.2]⟩

theorem constraint_length {source : Text} {t : Placed} {r rest : List Placed}
    {c : Option Constraint} (h : constraint source t r = .ok (c, rest)) :
    rest.length ≤ r.length := by
  rw [constraint] at h
  split at h
  · cases hg : skipGroup (t :: r) with
    | error e => simp [hg, Except.map] at h
    | ok g =>
      have := skipGroup_length hg
      simp only [hg, Except.map, Except.ok.injEq, Prod.mk.injEq] at h
      simp only [List.length_cons] at this
      rw [← h.2]
      omega
  · split at h
    · have := pairConstraint_length "NULL" .notNull r
      simp_all
    split at h
    · simp_all
    split at h
    · have := pairConstraint_length "KEY" .primaryKey r
      simp_all
    split at h
    · simp_all
    split at h
    · obtain ⟨a, ha⟩ := map_rest h
      exact defaultValue_length ha
    split at h
    · obtain ⟨a, ha⟩ := map_rest h
      exact reference_length ha
    split at h
    · simp only [Except.ok.injEq, Prod.mk.injEq] at h
      rw [← h.2]
      split <;> simp
    · simp_all

/-! ## Entries -/

/-- The constraints of a column, up to the comma or closing parenthesis that ends
its entry or to the end of all tokens. -/
def constraints (source : Text) (ts : List Placed) : Result (List Constraint) :=
  match ts with
  | [] => .ok ([], [])
  | t :: r =>
    if t.token = .comma || t.token = .rightParen then .ok ([], t :: r)
    else
      match _h : constraint source t r with
      | .error e => .error e
      | .ok (c, rest) =>
        match constraints source rest with
        | .error e => .error e
        | .ok (cs, rest) => .ok (c.toList ++ cs, rest)
termination_by ts.length
decreasing_by
  have := constraint_length _h
  simp only [List.length_cons]
  omega

/-- The words of a column's type.  One group in parentheses, a length or a
precision, may stand behind the first words and is skipped. -/
def columnType (column : Text) (ts : List Placed) : Result (List Text) :=
  match typeWords ts with
  | ([], rest) => .error (.expectedType column, rest)
  | (words, []) => .ok (words, [])
  | (words, t :: r) =>
    if t.token = .leftParen then
      match skipGroup (t :: r) with
      | .error e => .error e
      | .ok rest => .ok (words ++ (typeWords rest).1, (typeWords rest).2)
    else .ok (words, t :: r)

/-- A column: its name, its type and its constraints. -/
def column (source : Text) : List Placed → Result Column
  | [] => .error (.expectedColumnName, [])
  | t :: r =>
    match t.token with
    | .word name _ =>
      match columnType name r with
      | .error e => .error e
      | .ok (words, rest) =>
        match constraints source rest with
        | .error e => .error e
        | .ok (cs, rest) => .ok (⟨name, Text.join [' '] words, cs⟩, rest)
    | _ => .error (.expectedColumnName, t :: r)

/-- The tokens behind a constraint of the whole table. -/
def skipEntry (ts : List Placed) : Except Failure (List Placed) :=
  match ts with
  | [] => .ok []
  | t :: r =>
    if t.token = .comma || t.token = .rightParen then .ok (t :: r)
    else if t.token = .leftParen then
      match _h : skipGroup (t :: r) with
      | .error e => .error e
      | .ok rest => skipEntry rest
    else skipEntry r
termination_by ts.length
decreasing_by
  · exact skipGroup_length _h
  · simp

/-- One entry of a column list: a column, or a constraint of the whole table,
which is skipped. -/
def entry (source : Text) : List Placed → Result (Option Column)
  | [] => .error (.expectedColumnName, [])
  | t :: r =>
    if t.token.isAnyKeyword tableConstraintKeywords then (skipEntry (t :: r)).map (none, ·)
    else (column source (t :: r)).map fun p => (some p.1, p.2)

theorem constraints_length {source : Text} {ts rest : List Placed} {cs : List Constraint}
    (h : constraints source ts = .ok (cs, rest)) : rest.length ≤ ts.length := by
  fun_induction constraints source ts generalizing cs with
  | case1 => simp_all
  | case2 => simp_all
  | case3 => simp at h
  | case4 => simp at h
  | case5 t r _ c rest' hc cs' rest'' hcs ih =>
    have := constraint_length hc
    simp only [Except.ok.injEq, Prod.mk.injEq] at h
    have := ih (h.2 ▸ hcs)
    simp only [List.length_cons]
    omega

theorem columnType_length {name : Text} {ts rest : List Placed} {words : List Text}
    (h : columnType name ts = .ok (words, rest)) : rest.length ≤ ts.length := by
  have hw := typeWords_length ts
  rw [columnType] at h
  split at h
  · simp at h
  · simp_all
  · next heq =>
    rw [heq] at hw
    split at h
    · split at h
      · simp at h
      · next g hg =>
        have := skipGroup_length hg
        have := typeWords_length g
        simp only [Except.ok.injEq, Prod.mk.injEq] at h
        rw [← h.2]
        simp only at hw
        omega
    · simp only [Except.ok.injEq, Prod.mk.injEq] at h
      rw [← h.2]
      exact hw

theorem column_length {source : Text} {ts rest : List Placed} {c : Column}
    (h : column source ts = .ok (c, rest)) : rest.length < ts.length := by
  cases ts with
  | nil => simp [column] at h
  | cons t r =>
    rw [column] at h
    split at h
    · split at h
      · simp at h
      · next ht =>
        have := columnType_length ht
        split at h
        · simp at h
        · next hc =>
          have := constraints_length hc
          simp only [Except.ok.injEq, Prod.mk.injEq] at h
          rw [← h.2]
          simp only [List.length_cons]
          omega
    · simp at h

theorem skipEntry_length {ts rest : List Placed} (h : skipEntry ts = .ok rest) :
    rest.length ≤ ts.length := by
  fun_induction skipEntry ts with
  | case1 => simp_all
  | case2 => simp_all
  | case3 => simp at h
  | case4 t r _ _ g hg ih =>
    have := skipGroup_length hg
    have := ih h
    omega
  | case5 t r _ _ ih =>
    have := ih h
    simp only [List.length_cons]
    omega

theorem entry_length {source : Text} {ts rest : List Placed} {c : Option Column}
    (h : entry source ts = .ok (c, rest)) : rest.length ≤ ts.length := by
  cases ts with
  | nil => simp [entry] at h
  | cons t r =>
    rw [entry] at h
    split at h
    · cases hs : skipEntry (t :: r) with
      | error e => simp [hs, Except.map] at h
      | ok g =>
        have := skipEntry_length hs
        simp only [hs, Except.map, Except.ok.injEq, Prod.mk.injEq] at h
        rw [← h.2]
        omega
    · obtain ⟨a, ha⟩ := map_rest h
      have := column_length ha
      omega

/-! ## Tables -/

/-- The columns of a column list, the opening parenthesis of which is already
read.  A comma may stand behind the last entry. -/
def entries (source : Text) (ts : List Placed) : Result (List Column) :=
  match ts with
  | [] => .error (.unterminatedList, [])
  | t :: r =>
    if t.token = .rightParen then .ok ([], r)
    else
      match _h : entry source (t :: r) with
      | .error e => .error e
      | .ok (_, []) => .error (.unterminatedList, [])
      | .ok (c, s :: rest) =>
        match s.token with
        | .comma =>
          match entries source rest with
          | .error e => .error e
          | .ok (cs, rest) => .ok (c.toList ++ cs, rest)
        | .rightParen => .ok (c.toList, rest)
        | _ => .error (.expectedSeparator, s :: rest)
termination_by ts.length
decreasing_by
  have := entry_length _h
  simp only [List.length_cons] at this ⊢
  omega

/-- A table, the header of which is already read. -/
def table (source : Text) (ts : List Placed) : Result Table :=
  match qualifiedName .table ts with
  | .error e => .error e
  | .ok (_, []) => .error (.expectedColumnList, [])
  | .ok (name, t :: r) =>
    if t.token = .leftParen then
      match entries source r with
      | .error e => .error e
      | .ok (columns, rest) => .ok (⟨name, columns⟩, rest)
    else .error (.expectedColumnList, t :: r)

/-- The place of a fault: the first token that was left, or else the end of the
last token of all. -/
def faultLocation (ts left : List Placed) : Location :=
  match left.head?, ts.getLast? with
  | some t, _ => t.first
  | none, some t => t.last
  | none, none => Location.start

end Grammar

namespace Table

open Sql (Placed)

/-- The table that tokens without blanks define.  What stands before the header
and behind the column list is ignored.  `source` is the text the tokens were read
from. -/
def ofTokens (source : Text) (ts : List Placed) : Except SchemaError Table :=
  match Grammar.afterHeader? ts with
  | none => .error .tableNotFound
  | some body =>
    match Grammar.table source body with
    | .ok (table, _) => .ok table
    | .error (fault, left) => .error (.malformed fault (Grammar.faultLocation ts left))

/-- The table that a statement defines.  Its empty rows are dropped first, so the
lines of a fault count the other rows only. -/
def parse (statement : Text) : Except SchemaError Table :=
  let source := Text.dropBlankRows statement
  match Sql.tokens source with
  | .error e => .error (.unreadable e)
  | .ok ts => ofTokens source (ts.filter (·.token ≠ .blank))

end Table

end TableScaffold
