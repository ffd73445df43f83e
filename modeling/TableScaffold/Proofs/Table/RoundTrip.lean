import TableScaffold.Proofs.Table.Readers

set_option autoImplicit false

/-!
# Reading what is written
-/

namespace TableScaffold.Written

open Grammar (constraintKeywords)
open Sql (Lexeme Placed Token textOf)

/-! ## Keywords -/

@[simp] theorem Spelling.isKeyword {keyword : String} (s : Spelling keyword) (k : Text) :
    s.lexeme.token.isKeyword k = Text.eqIgnoringCase keyword.toList k := by
  have h := s.spells
  simp only [Text.eqIgnoringCase, beq_iff_eq] at h
  simp [Spelling.lexeme, Token.isKeyword, Text.eqIgnoringCase, h]

theorem Spelling.solid_cons {keyword : String} (s : Spelling keyword) (l : Location)
    (xs : List Lexeme) :
    solid l (s.lexeme :: xs) = ⟨s.lexeme.token, l, l.after s.text⟩ :: solid (l.after s.text) xs :=
  Written.solid_cons (by simp [Spelling.lexeme]) l xs

theorem Spelling.isAnyKeyword {keyword : String} (s : Spelling keyword) (keywords : List Text) :
    s.lexeme.token.isAnyKeyword keywords
      = keywords.any fun k => Text.eqIgnoringCase keyword.toList k := by
  simp [Token.isAnyKeyword]

theorem afterKeyword?_spelling {keyword : String} (s : Spelling keyword) (l l' : Location)
    (rest : List Placed) :
    Grammar.afterKeyword? keyword.toList (⟨s.lexeme.token, l, l'⟩ :: rest) = some rest := by
  simp [Grammar.afterKeyword?, Text.eqIgnoringCase]

/-! ## Constraints -/

theorem reference_none (l : Location) (qualifiers : List Name) (table : Name) {rest : List Placed}
    (hrest : Follows rest) :
    Grammar.reference (solid l (Sql.qualifyLexemes (qualifiers.map Name.value) table.value) ++ rest)
      = .ok (.references table.value none, rest) := by
  unfold Grammar.reference
  rw [qualifiedName_qualify .referencedTable l _ table.value]
  · cases rest with
    | nil => rfl
    | cons t r => simp [hrest.token_ne]
  · intro t ht
    cases rest with
    | nil => simp at ht
    | cons u r =>
      obtain rfl : u = t := by simpa using ht
      exact hrest.token_ne.2

theorem reference_some (l : Location) (qualifiers : List Name) (table column : Name)
    (rest : List Placed) :
    Grammar.reference (solid l (Sql.qualifyLexemes (qualifiers.map Name.value) table.value
        ++ [⟨.leftParen, ['(']⟩, column.lexeme, ⟨.rightParen, [')']⟩]) ++ rest)
      = .ok (.references table.value (some column.value), rest) := by
  unfold Grammar.reference
  rw [solid_append, List.append_assoc, qualifiedName_qualify .referencedTable l _ table.value]
  · simp [solid_cons, Name.lexeme, Grammar.skipGroup, Grammar.closeGroup, Grammar.peekWord?]
  · simp [solid_cons]

theorem reference_elim (l : Location) (qualifiers : List Name) (table : Name)
    (column : Option Name) {rest : List Placed} (hrest : Follows rest) :
    Grammar.reference (solid l
        (Sql.qualifyLexemes (qualifiers.map Name.value) table.value ++ column.elim [] fun c =>
          [⟨.leftParen, ['(']⟩, c.lexeme, ⟨.rightParen, [')']⟩]) ++ rest)
      = .ok (.references table.value (column.map Name.value), rest) := by
  cases column with
  | none =>
    rw [Option.elim_none, List.append_nil]
    exact reference_none l qualifiers table hrest
  | some column => exact reference_some l qualifiers table column rest

/-- The first token of a clause is a keyword that ends what stands before it. -/
theorem solid_clause (l : Location) (c : Clause) :
    ∃ t r, solid l c.lexemes = t :: r ∧ t.token.isAnyKeyword constraintKeywords = true := by
  cases c
  all_goals
    rw [Clause.lexemes]
    try rw [List.cons_append]
    rw [Spelling.solid_cons]
    refine ⟨_, _, rfl, ?_⟩
    rw [Spelling.isAnyKeyword]
    decide

/-- A clause is read as the constraint that it stands for. -/
theorem constraint_clause {before behind source : Text} (c : Clause)
    (hsource : before ++ (c.print ++ behind) = source) {rest : List Placed}
    (hrest : Follows rest) :
    ∃ t r, solid (Location.start.after before) c.lexemes = t :: r
      ∧ t.token.isAnyKeyword constraintKeywords = true
      ∧ Grammar.constraint source t (r ++ rest) = .ok (some c.constraint, rest) := by
  obtain ⟨t, r, hsolid, hkeyword⟩ := solid_clause (Location.start.after before) c
  refine ⟨t, r, hsolid, hkeyword, ?_⟩
  cases c with
  | notNull first second =>
    rw [Clause.lexemes, first.solid_cons, solid_space, second.solid_cons] at hsolid
    obtain ⟨rfl, rfl⟩ := List.cons.inj hsolid
    have hpair := afterKeyword?_spelling second
    simp only [Grammar.constraint, Spelling.isKeyword, List.cons_append, Grammar.pairConstraint,
      hpair]
    rfl
  | null keyword =>
    rw [Clause.lexemes, keyword.solid_cons] at hsolid
    obtain ⟨rfl, rfl⟩ := List.cons.inj hsolid
    simp only [Grammar.constraint, Spelling.isKeyword]
    rfl
  | primaryKey first second =>
    rw [Clause.lexemes, first.solid_cons, solid_space, second.solid_cons] at hsolid
    obtain ⟨rfl, rfl⟩ := List.cons.inj hsolid
    have hpair := afterKeyword?_spelling second
    simp only [Grammar.constraint, Spelling.isKeyword, List.cons_append, Grammar.pairConstraint,
      hpair]
    rfl
  | unique keyword =>
    rw [Clause.lexemes, keyword.solid_cons] at hsolid
    obtain ⟨rfl, rfl⟩ := List.cons.inj hsolid
    simp only [Grammar.constraint, Spelling.isKeyword]
    rfl
  | default keyword expression =>
    rw [Clause.lexemes, keyword.solid_cons, solid_space, ← Location.after_append,
      ← Location.after_append] at hsolid
    obtain ⟨rfl, rfl⟩ := List.cons.inj hsolid
    have hvalue := @defaultValue_expression (before ++ keyword.text ++ [' ']) behind source
      expression (by rw [← hsource, Clause.print]; simp) rest hrest
    simp only [Grammar.constraint, Spelling.isKeyword, hvalue]
    rfl
  | references keyword qualifiers table column =>
    rw [Clause.lexemes, List.cons_append, keyword.solid_cons, List.cons_append, solid_space]
      at hsolid
    obtain ⟨rfl, rfl⟩ := List.cons.inj hsolid
    have hreference := reference_elim (((Location.start.after before).after keyword.text).after [' '])
      qualifiers table column hrest
    simp only [Grammar.constraint, Spelling.isKeyword, hreference]
    rfl

/-- One more constraint in front of constraints. -/
theorem constraints_cons {source : Text} {t : Placed} {r rest : List Placed}
    {c : Option Constraint} {cs : List Constraint} {rest' : List Placed}
    (ht : t.token.isAnyKeyword constraintKeywords = true)
    (hc : Grammar.constraint source t r = .ok (c, rest))
    (hcs : Grammar.constraints source rest = .ok (cs, rest')) :
    Grammar.constraints source (t :: r) = .ok (c.toList ++ cs, rest') := by
  obtain ⟨value, hvalue⟩ := isAnyKeyword_eq_true ht
  rw [Grammar.constraints, hvalue, if_neg (by simp)]
  split <;> simp_all

/-- The first token of a constraint is a keyword that ends what stands before it. -/
theorem solid_entry (l : Location) (c : ConstraintEntry) :
    ∃ t r, solid l c.lexemes = t :: r ∧ t.token.isAnyKeyword constraintKeywords = true := by
  rw [ConstraintEntry.lexemes]
  cases c.name with
  | none => exact solid_clause (l.after [' ']) c.clause
  | some n =>
    rw [Option.elim_some, List.cons_append, solid_space, List.cons_append, Spelling.solid_cons]
    refine ⟨_, _, rfl, ?_⟩
    rw [Spelling.isAnyKeyword]
    decide

theorem follows_entries (l : Location) (cs : List ConstraintEntry) {t : Placed}
    {rest : List Placed} (ht : t.token = .comma ∨ t.token = .rightParen) :
    Follows (solid l (constraintLexemes cs) ++ t :: rest) := by
  cases cs with
  | nil =>
    intro u hu
    obtain rfl : t = u := by simpa [constraintLexemes] using hu
    exact ht.elim .inl fun h => .inr (.inl h)
  | cons c cs =>
    obtain ⟨u, r, hsolid, hu⟩ := solid_entry l c
    rw [constraintLexemes, List.flatMap_cons, solid_append, hsolid]
    intro v hv
    obtain rfl : u = v := by simpa using hv
    exact .inr (.inr hu)

/-- One constraint with or without a name, in front of constraints. -/
theorem constraints_entry {before behind source : Text} (c : ConstraintEntry)
    (hsource : before ++ (c.print ++ behind) = source) {rest rest' : List Placed}
    (hrest : Follows rest) {cs : List Constraint}
    (hcs : Grammar.constraints source rest = .ok (cs, rest')) :
    Grammar.constraints source (solid (Location.start.after before) c.lexemes ++ rest)
      = .ok (c.clause.constraint :: cs, rest') := by
  unfold ConstraintEntry.print at hsource
  unfold ConstraintEntry.lexemes
  cases hname : c.name with
  | none =>
    obtain ⟨t, r, hsolid, hkeyword, hclause⟩ := @constraint_clause (before ++ [' ']) behind source
      c.clause (by rw [← hsource, hname]; simp) rest hrest
    rw [Location.after_append] at hsolid
    rw [Option.elim_none, List.nil_append, solid_space, hsolid, List.cons_append]
    exact constraints_cons hkeyword hclause hcs
  | some n =>
    obtain ⟨t, r, hsolid, hkeyword, hclause⟩ := @constraint_clause
      (before ++ [' '] ++ n.1.text ++ [' '] ++ Sql.quote n.2.value ++ [' ']) behind source
      c.clause (by rw [← hsource, hname]; simp) rest hrest
    have hlexemes : [space, n.1.lexeme, space, n.2.lexeme] ++ space :: c.clause.lexemes
        = space :: n.1.lexeme :: space :: n.2.lexeme :: space :: c.clause.lexemes := rfl
    rw [Option.elim_some, hlexemes, solid_space, n.1.solid_cons, solid_space,
      solid_cons (by simp [Name.lexeme]), solid_space]
    simp only [Name.lexeme, ← Location.after_append] at hsolid ⊢
    rw [hsolid, List.cons_append, List.cons_append, List.cons_append]
    have hfirst : n.1.lexeme.token.isAnyKeyword constraintKeywords = true := by
      rw [Spelling.isAnyKeyword]
      decide
    refine constraints_cons (c := none) ?_ ?_ (constraints_cons hkeyword hclause hcs)
    · exact hfirst
    · simp only [Grammar.constraint, Spelling.isKeyword]
      rfl

/-- Constraints are read in order, up to the end of the column. -/
theorem constraints_entries {before behind source : Text} {cs : List ConstraintEntry}
    (hsettled : ∀ c ∈ cs, c.clause.Settled)
    (hsource : before ++ (cs.flatMap ConstraintEntry.print ++ behind) = source)
    {t : Placed} {rest : List Placed} (ht : t.token = .comma ∨ t.token = .rightParen) :
    Grammar.constraints source
        (solid (Location.start.after before) (constraintLexemes cs) ++ t :: rest)
      = .ok (cs.map fun c => c.clause.constraint, t :: rest) := by
  induction cs generalizing before with
  | nil =>
    rw [constraintLexemes, List.flatMap_nil, solid_nil, List.nil_append, Grammar.constraints]
    simp [ht]
  | cons c cs ih =>
    rw [List.forall_mem_cons] at hsettled
    have htext : textOf c.lexemes = c.print := (ConstraintEntry.part hsettled.1).textOf_eq
    have hrest := @ih (before ++ c.print) hsettled.2 (by rw [← hsource]; simp)
    have hfollows := @follows_entries (Location.start.after (before ++ c.print)) cs t rest ht
    rw [constraintLexemes, List.flatMap_cons, solid_append, htext, List.append_assoc,
      ← Location.after_append]
    rw [List.flatMap_cons, List.append_assoc] at hsource
    exact constraints_entry c hsource hfollows hrest

/-! ## Columns -/

/-- A column is read up to the comma or parenthesis behind it. -/
theorem entry_column {before behind source : Text} {c : ColumnEntry} (hsettled : c.Settled)
    (hsource : before ++ (c.print ++ behind) = source)
    {t : Placed} {rest : List Placed} (ht : t.token = .comma ∨ t.token = .rightParen) :
    ∃ u r, solid (Location.start.after before) c.lexemes = u :: r ∧ u.token ≠ .rightParen
      ∧ Grammar.entry source (u :: r ++ t :: rest) = .ok (some c.column, t :: rest) := by
  have htext : textOf c.typeLexemes = c.printType := c.type_part.1.textOf_eq
  have hconstraints := @constraints_entries (before ++ Sql.quote c.name.value ++ c.printType) behind
    source c.constraints hsettled (by rw [← hsource, ColumnEntry.print]; simp) t rest ht
  have hfollows := @follows_entries
    (Location.start.after (before ++ Sql.quote c.name.value ++ c.printType)) c.constraints t rest ht
  have hsolid : solid (Location.start.after before) c.lexemes
      = ⟨.word c.name.value true, Location.start.after before,
          Location.start.after (before ++ Sql.quote c.name.value)⟩
        :: (solid (Location.start.after (before ++ Sql.quote c.name.value)) c.typeLexemes
          ++ solid (Location.start.after (before ++ Sql.quote c.name.value ++ c.printType))
            (constraintLexemes c.constraints)) := by
    rw [ColumnEntry.lexemes, List.cons_append, solid_cons (by simp [Name.lexeme]), solid_append,
      htext]
    simp only [Name.lexeme, Location.after_append]
  refine ⟨_, _, hsolid, by simp, ?_⟩
  have htype := columnType_entry c.name.value
    (Location.start.after (before ++ Sql.quote c.name.value)) c hfollows
  have hname : (Token.word c.name.value true).isAnyKeyword Grammar.tableConstraintKeywords = false := by
    rfl
  rw [List.cons_append, List.append_assoc, Grammar.entry]
  simp only [hname, Grammar.column, htype, hconstraints]
  rfl

/-! ## Definitions -/

theorem entries_cons {source : Text} {t s : Placed} {r rest rest' : List Placed}
    {c : Option Column} {cs : List Column} (ht : t.token ≠ .rightParen) (hs : s.token = .comma)
    (hc : Grammar.entry source (t :: r) = .ok (c, s :: rest))
    (hcs : Grammar.entries source rest = .ok (cs, rest')) :
    Grammar.entries source (t :: r) = .ok (c.toList ++ cs, rest') := by
  rw [Grammar.entries, if_neg ht]
  split <;> simp_all

theorem entries_last {source : Text} {t s : Placed} {r rest : List Placed}
    {c : Option Column} (ht : t.token ≠ .rightParen) (hs : s.token = .rightParen)
    (hc : Grammar.entry source (t :: r) = .ok (c, s :: rest)) :
    Grammar.entries source (t :: r) = .ok (c.toList, rest) := by
  rw [Grammar.entries, if_neg ht]
  split <;> simp_all

/-- The tokens of a column on its row, and those behind it. -/
theorem solid_row (before : Text) {c : ColumnEntry} (h : c.Settled) (xs : List Lexeme) :
    solid (Location.start.after before) (newline :: c.lexemes ++ xs)
      = solid (Location.start.after (before ++ ['\n'])) c.lexemes
        ++ solid (Location.start.after (before ++ ['\n'] ++ c.print)) xs := by
  rw [List.cons_append, solid_newline, solid_append, (ColumnEntry.part h).textOf_eq, ← Location.after_append,
    ← Location.after_append]

theorem textOf_row {c : ColumnEntry} (h : c.Settled) (xs : List Lexeme) :
    textOf (newline :: c.lexemes ++ xs) = '\n' :: (c.print ++ textOf xs) := by
  rw [List.cons_append, Sql.textOf_cons, Sql.textOf_append, (ColumnEntry.part h).textOf_eq]
  rfl

/-- The columns of a definition are read in order. -/
theorem entries_columns {before source : Text} {cs : List ColumnEntry}
    (hsettled : ∀ c ∈ cs, c.Settled)
    (hsource : before ++ textOf (columnsLexemes cs) = source) :
    Grammar.entries source (solid (Location.start.after before) (columnsLexemes cs))
      = .ok (cs.map ColumnEntry.column, []) := by
  induction cs generalizing before with
  | nil =>
    rw [columnsLexemes, solid_newline, solid_cons (by simp), Grammar.entries]
    rfl
  | cons c cs ih =>
    rw [List.forall_mem_cons] at hsettled
    cases cs with
    | nil =>
      rw [columnsLexemes, textOf_row hsettled.1] at hsource
      rw [columnsLexemes, solid_row before hsettled.1, solid_newline, solid_cons (by simp), solid_nil]
      obtain ⟨u, r, hsolid, hu, hentry⟩ := @entry_column (before ++ ['\n'])
        (textOf [newline, ⟨.rightParen, [')']⟩]) source c hsettled.1 (by rw [← hsource]; simp)
        ⟨.rightParen, _, _⟩ [] (.inr rfl)
      rw [hsolid]
      exact entries_last hu rfl hentry
    | cons c' cs =>
      rw [columnsLexemes, textOf_row hsettled.1] at hsource
      rw [columnsLexemes, solid_row before hsettled.1, solid_cons (by simp), ← Location.after_append]
      have hcs := @ih (before ++ ['\n'] ++ c.print ++ [',']) hsettled.2 (by rw [← hsource]; simp)
      obtain ⟨u, r, hsolid, hu, hentry⟩ := @entry_column (before ++ ['\n'])
        (textOf (⟨.comma, [',']⟩ :: columnsLexemes (c' :: cs))) source c hsettled.1
        (by rw [← hsource]; simp) ⟨.comma, _, _⟩ _ (.inl rfl)
      rw [hsolid]
      exact entries_cons hu rfl hentry hcs

/-- The header is found at the front of a definition. -/
theorem afterHeader?_header (d : Definition) (l : Location) (rest : List Placed) :
    Grammar.afterHeader? (solid l d.headerLexemes ++ rest) = some rest := by
  have hkeywords : Grammar.afterKeywords? Grammar.headerKeywords (solid l d.headerLexemes ++ rest)
      = some rest := by
    simp only [Definition.headerLexemes, Spelling.solid_cons, solid_space, solid_nil,
      List.cons_append, List.nil_append, Grammar.headerKeywords, List.map_cons, List.map_nil,
      Grammar.afterKeywords?, afterKeyword?_spelling, Option.bind_some]
  obtain ⟨t, r, hsolid⟩ : ∃ t r, solid l d.headerLexemes = t :: r :=
    ⟨_, _, d.createWord.solid_cons l _⟩
  rw [hsolid, List.cons_append] at hkeywords ⊢
  rw [Grammar.afterHeader?, hkeywords]

/-! ## Rows -/

theorem isRow_of_part {t : Text} {xs : List Lexeme} (h : Sql.RowPart t xs) {c : Char} (hc : c ∈ t)
    (hblank : Text.isBlank c = false) : Text.IsRow t where
  not_newline := h.not_newline
  not_return := h.not_return
  visible := ⟨c, hc, hblank⟩

theorem isRow_rows {cs : List ColumnEntry} (h : ∀ c ∈ cs, c.Settled) :
    ∀ row ∈ Definition.rows cs, Text.IsRow row := by
  have hquote (c : ColumnEntry) : '"' ∈ c.print := by
    simp [ColumnEntry.print, Sql.quote]
  induction cs with
  | nil => simp [Definition.rows]
  | cons c cs ih =>
    rw [List.forall_mem_cons] at h
    have hpart := ColumnEntry.part h.1
    cases cs with
    | nil =>
      intro row hrow
      obtain rfl : row = c.print := by simpa [Definition.rows] using hrow
      exact isRow_of_part hpart (hquote c) (by decide)
    | cons c' cs =>
      rw [Definition.rows, List.forall_mem_cons]
      have hcomma := hpart.append Sql.RowPart.nil.comma (Sql.beginsDelimited_cons (by decide) [])
      exact ⟨isRow_of_part hcomma (List.mem_append_left [','] (hquote c)) (by decide), ih h.2⟩

/-- The rows of a definition hold something, so none of them is dropped. -/
theorem dropBlankRows_print {d : Definition} (h : d.Settled) : Text.dropBlankRows d.print = d.print := by
  refine Text.dropBlankRows_join (List.cons_ne_nil _ _) ?_
  have hheader : '(' ∈ d.header := by
    simp [Definition.header]
  rw [List.forall_mem_cons, List.forall_mem_append]
  refine ⟨isRow_of_part d.header_part hheader (by decide), isRow_rows h, ?_⟩
  intro row hrow
  obtain rfl : row = [')'] := by simpa using hrow
  exact isRow_of_part Sql.RowPart.nil.rightParen List.mem_cons_self (by decide)

/-! ## The round trip -/

/-- The tokens of a definition, part by part. -/
theorem solid_definition (d : Definition) :
    ∃ l t, solid Location.start d.lexemes = solid Location.start d.headerLexemes
        ++ (solid l (Sql.qualifyLexemes (d.qualifiers.map Name.value) d.name.value)
          ++ t :: solid (Location.start.after d.header) (columnsLexemes d.columns))
      ∧ t.token = .leftParen := by
  rw [Definition.lexemes, solid_append, d.header_part.textOf_eq, solid_append, solid_append,
    solid_space, solid_space, solid_cons (by simp), solid_nil]
  simp only [List.append_assoc, List.cons_append, List.nil_append]
  exact ⟨_, _, rfl, rfl⟩

/-- Reading what is written gives the table that was written: the last part of
its name, its columns in order, each with the words of its type and the scalar
type that they stand for, and its constraints in order. -/
theorem parse_print (d : Definition) (h : d.Settled) :
    Table.parse d.print = .ok d.toTable
      ∧ d.toTable.columns.map Column.scalar
        = d.columns.map fun c => ScalarType.ofSql (Text.join [' '] c.typeWords) := by
  have htokens : Sql.tokens d.print = .ok (Sql.place Location.start d.lexemes) := by
    rw [Sql.tokens, Sql.lex_eq_ok.mpr (Definition.reads h).lexed]
    rfl
  have hcolumns := @entries_columns d.header d.print d.columns h (by
    rw [← (Definition.reads h).textOf_eq, Definition.lexemes, Sql.textOf_append,
      d.header_part.textOf_eq])
  obtain ⟨l, t, hsolid, ht⟩ := solid_definition d
  have hname := @qualifiedName_qualify .table l (d.qualifiers.map Name.value) d.name.value
    (t :: solid (Location.start.after d.header) (columnsLexemes d.columns)) (by simp [ht])
  constructor
  · unfold Table.parse
    simp only [dropBlankRows_print h, htokens]
    show Table.ofTokens d.print (solid Location.start d.lexemes) = _
    unfold Table.ofTokens Grammar.table
    rw [hsolid, afterHeader?_header]
    simp only [hname, ht, hcolumns, if_true]
    rfl
  · unfold Definition.toTable
    rw [List.map_map]
    rfl

/-! ## Definitions that are written out -/

/-- A keyword as the grammar spells it. -/
def Spelling.plain (keyword : String) : Spelling keyword := ⟨keyword.toList, by simp [Text.eqIgnoringCase]⟩

/-- An expression without commas and without keywords of constraints. -/
def Expression.plain (text : Text) (lexemes : List Lexeme)
    (reads : Sql.lexemes false text = .ok lexemes)
    (ends : lexemes ≠ [] ∧ (∀ l ∈ lexemes.head?, l.token ≠ .blank)
      ∧ (∀ l ∈ lexemes.getLast?, l.token ≠ .blank) ∧ (∀ c ∈ text.head?, Text.isBlank c = false)
      ∧ (∀ c ∈ text.getLast?, Text.isBlank c = false) ∧ '\n' ∉ text)
    (balanced : parenDepth 0 (solidTokens lexemes) = some 0)
    (free : ∀ t ∈ solidTokens lexemes, t ≠ .comma ∧ t.isAnyKeyword constraintKeywords = false) :
    Expression where
  text := text
  lexemes := lexemes
  reads := reads
  ne_nil := ends.1
  firstSolid := ends.2.1
  lastSolid := ends.2.2.1
  firstVisible := ends.2.2.2.1
  lastVisible := ends.2.2.2.2.1
  singleRow := ends.2.2.2.2.2
  balanced := balanced
  commas before behind h := absurd rfl (free .comma (by simp [h])).1
  keywords before token behind h _ _ := (free token (by simp [h])).2

/-- A column with one word for its type and the given constraints. -/
def ColumnEntry.simple (name : Name) (word : TypeWord) (constraints : List ConstraintEntry) :
    ColumnEntry := ⟨name, [word], List.cons_ne_nil word [], none, constraints⟩

/-- A table with the given name and columns. -/
def Definition.simple (name : Name) (columns : List ColumnEntry) : Definition :=
  ⟨.plain "CREATE", .plain "TABLE", .plain "IF", .plain "NOT", .plain "EXISTS", [], name, columns⟩

/-- The word of an integer column. -/
def intWord : TypeWord := ⟨"int".toList, ⟨by decide, by decide, by decide⟩, by decide⟩

/-- A table with a default value and a reference, in a schema. -/
def ordersDefinition : Definition :=
  { Definition.simple ⟨"orders".toList, by decide⟩
      [.simple ⟨"id".toList, by decide⟩ intWord
        [⟨some (.plain "CONSTRAINT", ⟨"a \"key\"".toList, by decide⟩),
          .primaryKey (.plain "PRIMARY") (.plain "KEY")⟩,
        ⟨none, .default (.plain "DEFAULT") (.plain "f(1)".toList
          [⟨.word ['f'] false, ['f']⟩, ⟨.leftParen, ['(']⟩, ⟨.literal, ['1']⟩, ⟨.rightParen, [')']⟩]
          (by decide +kernel) (by decide) (by decide) (by decide))⟩],
      .simple ⟨"user".toList, by decide⟩ intWord
        [⟨none, .references (.plain "REFERENCES") [] ⟨"users".toList, by decide⟩
          (some ⟨"id".toList, by decide⟩)⟩]]
    with qualifiers := [⟨"sales".toList, by decide⟩] }

theorem parse_print_orders :
    ordersDefinition.Settled
    ∧ ordersDefinition.print
      = ("CREATE TABLE IF NOT EXISTS \"sales\".\"orders\" (\n"
        ++ "\"id\" int CONSTRAINT \"a \"\"key\"\"\" PRIMARY KEY DEFAULT f(1),\n"
        ++ "\"user\" int REFERENCES \"users\"(\"id\")\n)").toList
    ∧ Table.parse ordersDefinition.print = .ok ordersDefinition.toTable := by
  have h : ordersDefinition.Settled := by
    decide +kernel
  exact ⟨h, by decide +kernel, (parse_print ordersDefinition h).1⟩

/-- A column with a default value that is not settled, in front of another column. -/
def openDefinition : Definition :=
  .simple ⟨"t".toList, by decide⟩
    [.simple ⟨"a".toList, by decide⟩ intWord [⟨none, .default (.plain "DEFAULT")
      (.plain "1 ?".toList [⟨.literal, ['1']⟩, space, ⟨.symbol, ['?']⟩] (by decide +kernel)
        (by decide) (by decide) (by decide))⟩],
    .simple ⟨"b".toList, by decide⟩ intWord []]

/-- A default value that ends with `?` takes the comma behind it. -/
theorem not_parse_print_open : ¬ ∀ d : Definition, Table.parse d.print = .ok d.toTable := by
  intro h
  have := h openDefinition
  revert this
  decide +kernel

end TableScaffold.Written
