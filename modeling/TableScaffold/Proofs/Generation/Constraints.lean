import TableScaffold.Proofs.Generation.Selection
import TableScaffold.Proofs.Table.Outline
import TableScaffold.Standalone

set_option autoImplicit false

/-!
# Constraints leave no trace

What is generated of a column is told by its name and its type, so a run does the same on two
schemas whose tables differ in constraints only (`Config.run_eq_of_outline`).  Therefore the
constraints of a column can be replaced by others, as long as the schema is read as before
around them (`Config.run_eq_of_constraints`).
-/

namespace TableScaffold

open Grammar Procedure
open Sql (Token)
open Written (solidTokens)

/-! ## Slots -/

theorem Message.fieldLines_outline (number : Nat) (columns : List Column) :
    fieldLines number (columns.map Column.outline) = fieldLines number columns := by
  induction columns generalizing number with
  | nil => rfl
  | cons c columns ih =>
    rw [List.map_cons, fieldLines, ih, fieldLines]
    rfl

theorem Message.build_outline (name : Text) (columns : List Column) :
    build name (columns.map Column.outline) = build name columns := by
  unfold build
  rw [fieldLines_outline]

namespace Table

variable (t : Table)

theorem withRole_outline (r : Role) :
    t.outline.withRole r = (t.withRole r).map Column.outline := by
  unfold withRole outline
  rw [List.filter_map]
  rfl

theorem map_ofColumn_outline (columns : List Column) :
    (columns.map Column.outline).map Binding.ofColumn = columns.map Binding.ofColumn := by
  rw [List.map_map]
  rfl

theorem fragments_outline : t.outline.fragments = t.fragments := by
  have hregular : t.outline.regular = t.regular := by
    rw [regular, withRole_outline, map_ofColumn_outline, regular]
  have hbound : t.outline.bound = t.bound := by
    rw [bound, withRole_outline, map_ofColumn_outline, hregular, bound]
  have hstamped : t.outline.stamped = t.stamped := by
    rw [stamped, withRole_outline, map_ofColumn_outline, stamped]
  unfold fragments
  rw [hregular, hbound, hstamped]

end Table

/-- No slot of a table looks at the constraints of its columns. -/
theorem ArtifactKind.slots_outline (k : ArtifactKind) (t : Table) (c : Config) :
    k.slots t.outline c = k.slots t c := by
  have hcommon : commonValues t.outline c = commonValues t c := rfl
  have hmessages : messageValues t.outline = messageValues t := by
    have hcreate : createColumns t.outline = (createColumns t).map Column.outline :=
      t.withRole_outline .regular
    have hupdate : updateColumns t.outline = (updateColumns t).map Column.outline := by
      unfold updateColumns Table.outline
      rw [List.filter_map]
      rfl
    have hcolumns : t.outline.columns = t.columns.map Column.outline := rfl
    unfold messageValues
    dsimp only
    rw [hcreate, hupdate, hcolumns, Message.build_outline, Message.build_outline,
      Message.build_outline]
    rfl
  unfold slots slotValues
  rw [hcommon, hmessages, t.fragments_outline]

/-! ## Runs -/

/-- A schema without the constraints of its columns. -/
def Schema.outline (s : Schema) : Schema := { s with tables := s.tables.map Table.outline }

theorem Schema.failure_outline (s : Schema) : s.outline.failure = s.failure := rfl

namespace Config

variable {m : Type → Type} [Monad m] [FileAccess m] [FormatAccess m] [Template.Engine]
variable (c : Config)

theorem generateTable_outline (bs : List Combined) (t : Table) :
    (c.generateTable bs t.outline : Reporting m (List Combined)) = c.generateTable bs t := by
  have hkind : (c.generateKind t.outline : Combined → Reporting m Combined)
      = c.generateKind t := by
    funext b
    unfold generateKind
    rw [ArtifactKind.slots_outline]
    rfl
  unfold generateTable
  rw [hkind]
  rfl

theorem foldlM_generateTable_outline (ts : List Table) (bs : List Combined) :
    ((ts.map Table.outline).foldlM c.generateTable bs : Reporting m (List Combined))
      = ts.foldlM c.generateTable bs := by
  rw [List.foldlM_map]
  simp only [generateTable_outline]

omit [Template.Engine] in
theorem selected_outline (s : Schema) :
    c.selected s.outline = (c.selected s).map Table.outline := by
  unfold selected Schema.outline
  rw [List.filter_map]
  rfl

/-- The artifacts of a schema are told from its outline. -/
theorem generateSchema_outline (s : Schema) :
    (c.generateSchema s.outline : Reporting m Unit) = c.generateSchema s := by
  unfold generateSchema
  rw [selected_outline, foldlM_generateTable_outline, Schema.failure_outline]

/-- A run does the same on schemas of the same outline. -/
theorem run_eq_of_outline {sql sql' : Text}
    (h : (Schema.read sql').outline = (Schema.read sql).outline) :
    (c.run sql' : ExceptT ScaffoldError m Report) = c.run sql := by
  unfold run
  rw [← generateSchema_outline, h, generateSchema_outline]

end Config

/-! ## Schemas -/

namespace Schema

/-- The tokens that the table of a statement is read from. -/
def tokensOf (s : Text) : Except Sql.LexError (List Token) :=
  (Sql.lex (Text.dropBlankRows (Text.dropBlankRows s))).map solidTokens

/-- A schema that defines a table between other statements, which is read from the given
tokens. -/
def DefinesTable (sql : Text) (before : List Text) (ts : List Token) (behind : List Text) : Prop :=
  ∃ s, Sql.statements sql = .ok (before ++ s :: behind) ∧ (tableOf? s).isSome
    ∧ tokensOf s = .ok ts

theorem tableOf?_eq_some {s : Text} {t : Table} : tableOf? s = some t
    ↔ isVoid (Text.dropBlankRows s) = false ∧ Table.parse (Text.dropBlankRows s) = .ok t := by
  unfold tableOf?
  cases isVoid (Text.dropBlankRows s) with
  | true => simp
  | false =>
    cases Table.parse (Text.dropBlankRows s) with
    | error e => simp [Except.toOption]
    | ok t' => simp [Except.toOption]

/-- A table is read from the tokens of its statement. -/
theorem exists_ofLexemes {s : Text} {t : Table} {ts : List Token} (h : tableOf? s = some t)
    (hts : tokensOf s = .ok ts) : ∃ xs, solidTokens xs = ts ∧ Table.ofLexemes xs = .ok t := by
  obtain ⟨xs, hlex, hxs⟩ := map_eq_ok.mp hts
  refine ⟨xs, hxs, ?_⟩
  rw [← Table.parse_of_spells (Sql.lex_eq_ok.mp hlex)]
  exact (tableOf?_eq_some.mp h).2

/-- Where a statement is replaced by one that defines a table of the same outline, the
outline of the schema stays. -/
theorem outline_ofStatements {s s' : Text} {t t' : Table} (hs : tableOf? s = some t)
    (hs' : tableOf? s' = some t') (h : t.outline = t'.outline) (before behind : List Text) :
    (ofStatements (before ++ s' :: behind)).outline
      = (ofStatements (before ++ s :: behind)).outline := by
  have hcons (t : Table) (schema : Schema) :
      (schema.cons t).outline = schema.outline.cons t.outline := rfl
  induction before with
  | nil =>
    obtain ⟨hvoid, hparse⟩ := tableOf?_eq_some.mp hs
    obtain ⟨hvoid', hparse'⟩ := tableOf?_eq_some.mp hs'
    rw [List.nil_append, List.nil_append, ofStatements_of_ok hvoid hparse,
      ofStatements_of_ok hvoid' hparse', hcons, hcons, h]
  | cons r before ih =>
    rw [List.cons_append, List.cons_append]
    cases hvoid : isVoid (Text.dropBlankRows r) with
    | true =>
      rw [ofStatements_of_isVoid hvoid, ofStatements_of_isVoid hvoid]
      exact ih
    | false =>
      cases hparse : Table.parse (Text.dropBlankRows r) with
      | error e => rw [ofStatements_of_error hvoid hparse, ofStatements_of_error hvoid hparse]
      | ok r' =>
        rw [ofStatements_of_ok hvoid hparse, ofStatements_of_ok hvoid hparse, hcons, hcons, ih]

end Schema

/-- Replacing the constraints of a column by others changes nothing in a run: `front` is the
entry of the column up to its constraints, which begin with a keyword outside of parentheses.
In the new schema the tokens around the constraints are as they were, so that it has the same
statements and the same entries but for this one. -/
theorem Config.run_eq_of_constraints (c : Config) {sql sql' : Text} {before behind : List Text}
    {lead front part part' post : List Token} {u : Token} (hlead : LeadsToEntry lead)
    (hne : front ≠ []) (hfront : Closed front) (hpart : IsConstraintPart part)
    (hpart' : IsConstraintPart part') (hu : IsEnd u)
    (h : Schema.DefinesTable sql before (lead ++ (front ++ part ++ u :: post)) behind)
    (h' : Schema.DefinesTable sql' before (lead ++ (front ++ part' ++ u :: post)) behind)
    (m : Type → Type) [Monad m] [FileAccess m] [FormatAccess m] [Template.Engine] :
    (c.run sql' : ExceptT ScaffoldError m Report) = c.run sql := by
  obtain ⟨s, hsql, hs, hts⟩ := h
  obtain ⟨s', hsql', hs', hts'⟩ := h'
  obtain ⟨t, ht⟩ := Option.isSome_iff_exists.mp hs
  obtain ⟨t', ht'⟩ := Option.isSome_iff_exists.mp hs'
  obtain ⟨xs, hxs, hread⟩ := Schema.exists_ofLexemes ht hts
  obtain ⟨xs', hxs', hread'⟩ := Schema.exists_ofLexemes ht' hts'
  have houtline : t.outline = t'.outline :=
    Table.outline_eq_of_ofLexemes hread hread' hlead (.intro hne hfront hpart hpart') hu hxs hxs'
  apply c.run_eq_of_outline
  rw [Schema.read_of_statements hsql, Schema.read_of_statements hsql']
  exact Schema.outline_ofStatements ht ht' houtline before behind

/-! ## Other constraints of one column -/

namespace Sample

/-- The text of a table up to the constraints of its second column. -/
def opened : Text := "CREATE TABLE IF NOT EXISTS t (id uuid, a int".toList

/-- The text behind these constraints. -/
def ending : Text := ", b int)".toList

/-- The text of the table with the given constraints. -/
def constrained (part : String) : Text := opened ++ part.toList ++ ending

/-- The tokens of the table with the given constraints. -/
def constrainedTokens (part : List Token) : List Token :=
  lead ++ (bare ["a", "int"] ++ part ++ .comma :: (bare ["b", "int"] ++ [.rightParen]))

/-- A default value that holds a comma, and another constraint. -/
def calculated : List Token :=
  bare ["DEFAULT", "f"] ++ [.leftParen, .literal, .comma, .literal, .rightParen]
    ++ bare ["NOT", "NULL"]

/-- A table as it may be read: its second column with the given constraints, and the columns
behind it. -/
def readAs (constraints : List Constraint) (behind : List Column) : Table :=
  ⟨"t".toList,
    ⟨"id".toList, "uuid".toList, []⟩ :: ⟨"a".toList, "int".toList, constraints⟩ :: behind⟩

def third : Column := ⟨"b".toList, "int".toList, []⟩

/-- A text that is one statement, and the table that is read from its tokens. -/
structure Reads (sql : Text) (ts : List Token) (t : Table) : Prop where
  statements : Sql.statements sql = .ok [sql]
  tokens : Schema.tokensOf sql = .ok ts
  table : Schema.tableOf? sql = some t

namespace Reads

variable {sql : Text} {ts : List Token} {t : Table}

theorem definesTable (h : Reads sql ts t) : Schema.DefinesTable sql [] ts [] :=
  ⟨sql, h.statements, Option.isSome_of_eq_some h.table, h.tokens⟩

theorem read_eq (h : Reads sql ts t) : Schema.read sql = ⟨[t], none⟩ := by
  obtain ⟨hvoid, hparse⟩ := Schema.tableOf?_eq_some.mp h.table
  rw [Schema.read_of_statements h.statements, Schema.ofStatements_of_ok hvoid hparse]
  rfl

end Reads

theorem reads_constrained :
    Reads (constrained "") (constrainedTokens []) (readAs [] [third]) :=
  ⟨by decide +kernel, by decide +kernel, by decide +kernel⟩

theorem reads_calculated :
    Reads (constrained " DEFAULT f(1, 2) NOT NULL") (constrainedTokens calculated)
      (readAs [.default "f(1, 2)".toList, .notNull] [third]) :=
  ⟨by decide +kernel, by decide +kernel, by decide +kernel⟩

end Sample

/-- A default value and a further constraint stand where there was nothing. -/
theorem Config.run_eq_of_constraints_calculated :
    Schema.DefinesTable (Sample.constrained "") [] (Sample.constrainedTokens []) []
      ∧ Schema.DefinesTable (Sample.constrained " DEFAULT f(1, 2) NOT NULL") []
        (Sample.constrainedTokens Sample.calculated) []
      ∧ (Sample.config.run (Sample.constrained " DEFAULT f(1, 2) NOT NULL")
          : Procedure Workspace Report) = Sample.config.run (Sample.constrained "") := by
  have hsame := Config.run_eq_of_constraints Sample.config Sample.leadsToEntry_lead (by decide)
    (by decide) .nil (by decide) isEnd_comma Sample.reads_constrained.definesTable
    Sample.reads_calculated.definesTable (StateM Workspace)
  exact ⟨Sample.reads_constrained.definesTable, Sample.reads_calculated.definesTable, hsame⟩

/-! ## Parts that reach beyond the constraints -/

namespace Sample

/-- The messages of a schema, from templates of its own. -/
def messagesOnly : Config :=
  Config.only { templateDir := some "t".toList, outputDir := "o".toList } .proto

/-- A directory with a template for the message of a row. -/
def rowTemplates : Workspace where
  entries :=
    [(["t".toList], .directory),
      (["t".toList, "proto.tmpl".toList], .file "\x7b\x7bentity_message\x7d\x7d".toUTF8),
      (["t".toList, "proto_aggregate.tmpl".toList], .file "row".toUTF8)]

/-- What a run makes of a schema with this template. -/
def outcome (sql : Text) : Except ScaffoldError Report × Workspace :=
  exec (messagesOnly.run sql : Procedure Workspace Report) rowTemplates

/-- What a run makes of a schema once it is read as one table. -/
def outcomeOf (t : Table) : Except ScaffoldError Report × Workspace :=
  exec (do return (← (messagesOnly.generateSchema ⟨[t], none⟩).run {}).2
    : Procedure Workspace Report) rowTemplates

theorem outcome_of_read {sql : Text} {t : Table} (h : Schema.read sql = ⟨[t], none⟩) :
    outcome sql = outcomeOf t := by
  unfold outcome Config.run
  rw [h]
  rfl

theorem outcomeOf_readAs (constraints : List Constraint) (behind : List Column) :
    outcomeOf (readAs constraints behind) = outcomeOf (readAs [] behind) := by
  have houtline : (⟨[readAs constraints behind], none⟩ : Schema).outline
      = (⟨[readAs [] behind], none⟩ : Schema).outline := rfl
  unfold outcomeOf
  rw [← Config.generateSchema_outline, houtline, Config.generateSchema_outline]

theorem exists_outcomeOf : ∃ report w, outcomeOf (readAs [] [third]) = (.ok report, w) := by
  have hok : (outcomeOf (readAs [] [third])).1.isOk = true := by
    decide +kernel
  generalize outcomeOf (readAs [] [third]) = found at hok ⊢
  obtain ⟨result, w⟩ := found
  cases result with
  | error e => cases hok
  | ok report => exact ⟨report, w, rfl⟩

/-- The message of the row has a field for the third column. -/
theorem outcomeOf_ne : outcomeOf (readAs [] []) ≠ outcomeOf (readAs [] [third]) := by
  decide +kernel

/-- The comma is a part of the operator, so the second column reaches to the end of the list. -/
theorem read_constrained_open : Schema.read (constrained " DEFAULT 1 ?")
    = ⟨[readAs [.default "1 ?, b int".toList] []], none⟩ := by
  decide +kernel

/-- A table with a group behind the type of its second column, and a parenthesis too many at
its end. -/
def grouped (part : String) : Text :=
  "CREATE TABLE IF NOT EXISTS t (id uuid, a int (x) (".toList ++ part.toList ++ ", b int) )".toList

/-- The tokens of that table. -/
def groupedTokens (part : List Token) : List Token :=
  lead ++ (bare ["a", "int"] ++ .leftParen :: (bare ["x"] ++ [.rightParen, .leftParen]) ++ part
    ++ .comma :: (bare ["b", "int"] ++ [.rightParen, .rightParen]))

theorem reads_grouped : Reads (grouped "NOT NULL)")
    (groupedTokens (bare ["NOT", "NULL"] ++ [.rightParen])) (readAs [] [third]) :=
  ⟨by decide +kernel, by decide +kernel, by decide +kernel⟩

/-- Without its end, the group goes on to the end of the list. -/
theorem reads_grouped_open :
    Reads (grouped "NULL") (groupedTokens (bare ["NULL"])) (readAs [] []) :=
  ⟨by decide +kernel, by decide +kernel, by decide +kernel⟩

end Sample

/-- It takes more than that the new constraints are closed and can be read by themselves: an
operator at their end may take the comma behind them.  It takes more than the first keyword
to find where they begin: that may stand within parentheses, so that they close a group. -/
theorem Config.not_run_eq_of_constraints :
    (¬ ∀ (c : Config) (x part part' y : Text) (before behind : List Text)
        (lead front ts ts' post : List Token) (u : Token) (report : Report) (w w' : Workspace),
      LeadsToEntry lead → front ≠ [] → Closed front → IsConstraintPart ts →
      IsConstraintPart ts' → IsEnd u →
      Schema.DefinesTable (x ++ part ++ y) before (lead ++ (front ++ ts ++ u :: post)) behind →
      (Sql.lex part).map solidTokens = .ok ts → (Sql.lex part').map solidTokens = .ok ts' →
      .semicolon ∉ ts' → ¬ Sql.EndsInLineComment part' →
      (Schema.read (x ++ part' ++ y)).failure = none →
      exec (c.run (x ++ part ++ y) : Procedure Workspace Report) w = (.ok report, w') →
      exec (c.run (x ++ part' ++ y) : Procedure Workspace Report) w = (.ok report, w'))
    ∧ ¬ ∀ (c : Config) (sql sql' : Text) (before behind : List Text)
        (lead front ts ts' post : List Token) (u : Token) (report : Report) (w w' : Workspace),
      LeadsToEntry lead → front ≠ [] →
      (∀ t ∈ front, t.isAnyKeyword constraintKeywords = false) → Closed (front ++ ts) →
      BeginsConstraint ts → IsConstraintPart ts' → IsEnd u →
      Schema.DefinesTable sql before (lead ++ (front ++ ts ++ u :: post)) behind →
      Schema.DefinesTable sql' before (lead ++ (front ++ ts' ++ u :: post)) behind →
      exec (c.run sql : Procedure Workspace Report) w = (.ok report, w') →
      exec (c.run sql' : Procedure Workspace Report) w = (.ok report, w') := by
  obtain ⟨report, w, hrun⟩ := Sample.exists_outcomeOf
  constructor
  · intro h
    have hfailure : (Schema.read (Sample.constrained " DEFAULT 1 ?")).failure = none := by
      rw [Sample.read_constrained_open]
    have hsame : Sample.outcome (Sample.constrained " DEFAULT 1 ?") = (.ok report, w) :=
      h Sample.messagesOnly Sample.opened "".toList " DEFAULT 1 ?".toList
        Sample.ending [] [] Sample.lead (Sample.bare ["a", "int"]) []
        (Sample.bare ["DEFAULT"] ++ [Token.literal, Token.symbol])
        (Sample.bare ["b", "int"] ++ [Token.rightParen]) .comma report Sample.rowTemplates w
        Sample.leadsToEntry_lead (by decide) (by decide) .nil (by decide) isEnd_comma
        Sample.reads_constrained.definesTable (by decide +kernel) (by decide +kernel) (by decide)
        (by decide +kernel) hfailure
        ((Sample.outcome_of_read Sample.reads_constrained.read_eq).trans hrun)
    rw [Sample.outcome_of_read Sample.read_constrained_open, Sample.outcomeOf_readAs] at hsame
    exact Sample.outcomeOf_ne (hsame.trans hrun.symm)
  · intro h
    have hsame : Sample.outcome (Sample.grouped "NULL") = (.ok report, w) :=
      h Sample.messagesOnly _ _ [] [] Sample.lead
        (Sample.bare ["a", "int"]
          ++ Token.leftParen :: (Sample.bare ["x"] ++ [Token.rightParen, Token.leftParen]))
        (Sample.bare ["NOT", "NULL"] ++ [Token.rightParen]) (Sample.bare ["NULL"])
        (Sample.bare ["b", "int"] ++ [Token.rightParen, Token.rightParen]) .comma report
        Sample.rowTemplates w Sample.leadsToEntry_lead (by decide) (by decide) (by decide)
        (by decide) (by decide) isEnd_comma Sample.reads_grouped.definesTable
        Sample.reads_grouped_open.definesTable
        ((Sample.outcome_of_read Sample.reads_grouped.read_eq).trans hrun)
    rw [Sample.outcome_of_read Sample.reads_grouped_open.read_eq] at hsame
    exact Sample.outcomeOf_ne (hsame.trans hrun.symm)

end TableScaffold
