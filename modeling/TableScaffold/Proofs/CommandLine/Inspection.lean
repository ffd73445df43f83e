import TableScaffold.Proofs.Artifact.Builtin
import TableScaffold.Proofs.CommandLine.Listing
import TableScaffold.Proofs.CommandLine.Reading
import TableScaffold.Proofs.Generation.Delivery
import TableScaffold.Proofs.Generation.Stepwise

set_option autoImplicit false

/-!
# Listing a schema and running on it

Listing a schema goes through its statements as a run does (`CommandLine.listTables`).  If the
run takes all tables, writes nothing and refuses no table, nothing but a fault of the schema
can end it.  Then each statement does to the listing what it does to the run (`matches_or_stops`),
so both succeed with the same tables, or both end at the same statement with the same fault,
behind the same tables (`inspection_meets_run`).  What is printed is told row by row
(`CommandLine.tableRows`).
-/

namespace TableScaffold

open Procedure

/-- The fault of a statement that is no table. -/
structure Schema.IsFault (statement : Text) (e : SchemaError) : Prop where
  notVoid : Schema.isVoid (Text.dropBlankRows statement) = false
  parse : Table.parse (Text.dropBlankRows statement) = .error e

/-! ## Listing, statement by statement -/

namespace CommandLine

/-- What has been listed of some statements. -/
structure Listed where
  output : Text
  count : Nat
  deriving DecidableEq

/-- Lists the table of a statement, if there is one. -/
def listStatement (l : Listed) (s : Text) : Except (Text × SchemaError) Listed :=
  let statement := Text.dropBlankRows s
  if Schema.isVoid statement then .ok l
  else
    match Table.parse statement with
    | .error e => .error (l.output, e)
    | .ok t => .ok ⟨l.output ++ tableLines t, l.count + 1⟩

/-- The listing of a schema while it is read; a fault comes with what was listed before it. -/
def listTables (sql : Text) : Except (Text × SchemaError) Listed :=
  match Sql.statements sql with
  | .error e => .error ([], .unreadable e)
  | .ok statements => statements.foldlM listStatement ⟨[], 0⟩

section Statement

variable {l : Listed} {s : Text}

theorem listStatement_of_isVoid (h : Schema.isVoid (Text.dropBlankRows s) = true) :
    listStatement l s = .ok l := by
  unfold listStatement
  exact if_pos h

theorem listStatement_of_isFault {e : SchemaError} (h : Schema.IsFault s e) :
    listStatement l s = .error (l.output, e) := by
  unfold listStatement
  dsimp only
  rw [if_neg (Bool.eq_false_iff.mp h.notVoid), h.parse]

theorem listStatement_of_ok (h : Schema.isVoid (Text.dropBlankRows s) = false) {t : Table}
    (ht : Table.parse (Text.dropBlankRows s) = .ok t) :
    listStatement l s = .ok ⟨l.output ++ tableLines t, l.count + 1⟩ := by
  unfold listStatement
  dsimp only
  rw [if_neg (Bool.eq_false_iff.mp h), ht]

end Statement

/-- The tables of a schema are listed up to its first fault. -/
theorem foldlM_listStatement (statements : List Text) (l : Listed) :
    statements.foldlM listStatement l
      = let schema := Schema.ofStatements statements
        let output := l.output ++ schema.tables.flatMap tableLines
        match schema.failure with
        | some e => .error (output, e)
        | none => .ok ⟨output, l.count + schema.tables.length⟩ := by
  induction statements generalizing l with
  | nil =>
    change .ok l = Except.ok (⟨l.output ++ [], _⟩ : Listed)
    rw [List.append_nil]
    rfl
  | cons s rest ih =>
    rw [List.foldlM_cons]
    cases hvoid : Schema.isVoid (Text.dropBlankRows s) with
    | true =>
      rw [listStatement_of_isVoid hvoid, Schema.ofStatements_of_isVoid hvoid, ← ih]
      rfl
    | false =>
      cases hparse : Table.parse (Text.dropBlankRows s) with
      | error e =>
        rw [listStatement_of_isFault ⟨hvoid, hparse⟩, Schema.ofStatements_of_error hvoid hparse]
        change _ = Except.error (l.output ++ [], e)
        rw [List.append_nil]
        rfl
      | ok t =>
        rw [listStatement_of_ok hvoid hparse, Schema.ofStatements_of_ok hvoid hparse]
        refine (ih _).trans ?_
        unfold Schema.cons
        simp only [List.flatMap_cons, List.length_cons, List.append_assoc, Nat.add_assoc,
          Nat.add_comm 1]

/-- The listing that is printed is the one that is made while the schema is read. -/
theorem inspection_eq (sql : Text) :
    inspection sql = match listTables sql with
      | .error (listed, e) => .failed listed (errorReport e.message none)
      | .ok l => .finished (l.output ++ countLine l.count) := by
  unfold inspection listTables Schema.read
  cases Sql.statements sql with
  | error e => rfl
  | ok statements =>
    dsimp only
    rw [foldlM_listStatement]
    dsimp only
    cases (Schema.ofStatements statements).failure with
    | some e => rfl
    | none =>
      dsimp only
      rw [List.nil_append, Nat.zero_add]

variable [GoFormatter] [Template.Engine] [ForeignSettings]

/-- A command line asks for a listing, and a schema is in the file that it is to be read from. -/
def Inspects (words : List Text) (environment : Environment) (w : Workspace) (sql : Text) : Prop :=
  ∃ o c, Options.parse words = .ok o ∧ o.command = some .inspect
    ∧ (exec (Config.load o.config environment) w).1 = .ok c
    ∧ (w.readBytes (o.override c).schemaFile).bind FileAccess.textOfBytes = .ok sql

/-- The program prints the listing of a schema that it is to inspect, and changes nothing. -/
theorem run_of_inspects {words : List Text} {environment : Environment} {w : Workspace} {sql : Text}
    (h : Inspects words environment w sql) :
    (run words environment : StateM Workspace Outcome).run w = (inspection sql, w) := by
  obtain ⟨o, c, hparse, hcommand, hload, hsql⟩ := h
  have hrun : (ExceptT.run (Config.load o.config environment) : StateM Workspace _).run w
      = (.ok c, w) := by
    rw [← hload]
    exact (Config.keeps_load o.config environment).exec_eq w
  have hread : (FileAccess.readText (o.override c).schemaFile : StateM Workspace _).run w
      = ((w.readBytes (o.override c).schemaFile).bind FileAccess.textOfBytes, w) := rfl
  unfold run
  rw [hparse]
  unfold perform
  rw [StateT.run_bind, hrun]
  change ((if o.command = some .inspect then inspect (o.override c) else _
    : StateM Workspace Outcome).run w) = _
  rw [if_pos hcommand]
  unfold inspect
  rw [StateT.run_bind, hread, hsql]
  rfl

end CommandLine

/-! ## Steps that only a fault of the schema can end -/

namespace Procedure

variable {α β : Type}

/-- An action succeeds everywhere and changes nothing. -/
def Settles (x : Procedure Workspace α) : Prop := ∀ w, ∃ a, exec x w = (.ok a, w)

theorem settles_pure (a : α) : Settles (pure a) := fun _ => ⟨a, rfl⟩

theorem Settles.bind {x : Procedure Workspace α} {f : α → Procedure Workspace β}
    (h : Settles x) (hf : ∀ a, Settles (f a)) : Settles (x >>= f) := by
  intro w
  obtain ⟨a, ha⟩ := h w
  obtain ⟨b, hb⟩ := hf a w
  exact ⟨b, exec_bind_eq_ok.mpr ⟨a, w, ha, hb⟩⟩

theorem settles_mapM {f : α → Procedure Workspace β} (h : ∀ a, Settles (f a)) (as : List α) :
    Settles (as.mapM f) := by
  induction as with
  | nil => exact settles_pure []
  | cons a as ih =>
    rw [List.mapM_cons]
    exact (h a).bind fun b => ih.bind fun bs => settles_pure (b :: bs)

theorem settles_forM {f : α → Procedure Workspace PUnit} (h : ∀ a, Settles (f a))
    (as : List α) : Settles (as.forM f) := by
  induction as with
  | nil => exact settles_pure ()
  | cons a as ih => exact (h a).bind fun _ => ih

end Procedure

section Trials

variable [GoFormatter] [Template.Engine]

omit [GoFormatter] in
theorem TemplateSource.settles_render {name text : Text} {slots : Slots}
    (h : ∀ w, builtin.renderIn w name slots = .ok text) :
    Settles (builtin.render name slots) := by
  intro w
  rw [(exec_render builtin name slots ⟨w, []⟩).2, h w]
  exact ⟨text, rfl⟩

namespace Config

/-- A dry run on all tables of a schema, with built-in templates. -/
structure IsTrial (c : Config) : Prop where
  builtin : c.templateDir = none
  dryRun : c.dryRun = true
  included : c.includeTables = ['*']
  excluded : c.excludeTables = []

variable {c : Config} {w : Workspace}

omit [Template.Engine] in
theorem settles_writeFile (hdry : c.dryRun = true) (p : Path) (t : Text) :
    Settles (c.writeFile p t) := by
  rw [writeFile_of_dryRun hdry]
  exact settles_pure ()

omit [Template.Engine] in
theorem settles_emitCombined (hdry : c.dryRun = true) (bs : List Combined) :
    Settles (c.emitCombined bs) := by
  unfold emitCombined
  apply settles_forM
  intro b
  exact settles_writeFile hdry _ _

namespace IsTrial

variable (hc : c.IsTrial)
include hc

omit [GoFormatter] [Template.Engine] in
theorem takes (table : Text) : c.filter.takes table = true := by
  unfold filter
  rw [hc.included, hc.excluded]
  rfl

theorem settles_emitKind (t : Table) (b : Combined) : Settles (c.emitKind t b) := by
  unfold emitKind
  rw [templateSource_of_builtin hc.builtin]
  apply Settles.bind
  · exact TemplateSource.settles_render (renderIn_fileTemplate b.kind t c)
  intro text
  apply Settles.bind
  · exact settles_writeFile hc.dryRun _ text
  intro _
  apply Settles.bind
  · exact TemplateSource.settles_render (renderIn_snippetTemplate b.kind t c)
  · exact fun s => settles_pure _

theorem settles_emitTable {t : Table} (hclear : c.collidingKind? t.name = none)
    (bs : List Combined) : Settles (c.emitTable bs t) := by
  unfold emitTable checkCollision
  rw [hclear]
  exact (settles_pure ()).bind fun _ => settles_mapM (hc.settles_emitKind t) bs

end IsTrial

/-! ## Both together -/

/-- Some statements have been listed and run on with the same tables. -/
structure Matches (l : CommandLine.Listed) (p : Progress) : Prop where
  output : l.output = p.tables.flatMap CommandLine.tableLines
  count : l.count = p.tables.length

/-- A run gets through some statements, and has then generated some tables. -/
def Passes (c : Config) (w : Workspace) (statements : List Text) (p : Progress) : Prop :=
  exec (statements.foldlM c.emitStatement c.start : Procedure Workspace Progress) w = (.ok p, w)

/-- A run ends with a fault of the schema, behind some tables: the schema cannot be split, or
the run gets to a statement that is no table. -/
inductive Halts (c : Config) (w : Workspace) (sql : Text) : List Table → SchemaError → Prop where
  | split {e : Sql.LexError} : Sql.statements sql = .error e → Halts c w sql [] (.unreadable e)
  | statement {before behind : List Text} {s : Text} {p : Progress} {e : SchemaError} :
    Sql.statements sql = .ok (before ++ s :: behind) → c.Passes w before p → Schema.IsFault s e →
    Halts c w sql p.tables e

open CommandLine

/-- How the listing of some statements and the run on them end together: they go through all
statements with the same tables, or stop at the same one of them behind the same tables. -/
inductive EndTogether (c : Config) (w : Workspace) (statements : List Text) (l : Listed)
    (p : Progress) : Prop where
  | pass {l' : Listed} {p' : Progress} : statements.foldlM listStatement l = .ok l' →
    exec (statements.foldlM c.emitStatement p : Procedure Workspace Progress) w = (.ok p', w) →
    Matches l' p' → EndTogether c w statements l p
  | stop {before behind : List Text} {s : Text} {p' : Progress} {e : SchemaError} :
    statements = before ++ s :: behind →
    exec (before.foldlM c.emitStatement p : Procedure Workspace Progress) w = (.ok p', w) →
    Schema.IsFault s e →
    statements.foldlM listStatement l = .error (p'.tables.flatMap tableLines, e) →
    exec (statements.foldlM c.emitStatement p : Procedure Workspace Progress) w
      = (.error (.schema e), w) →
    EndTogether c w statements l p

section Steps

variable {s : Text} {rest statements : List Text} {l l₁ : Listed} {p p₁ : Progress}

theorem exec_cons_of_ok {result : Except ScaffoldError Progress}
    (hfirst : exec (c.emitStatement p s : Procedure Workspace Progress) w = (.ok p₁, w))
    (hrest : exec (rest.foldlM c.emitStatement p₁ : Procedure Workspace Progress) w
      = (result, w)) :
    exec ((s :: rest).foldlM c.emitStatement p : Procedure Workspace Progress) w
      = (result, w) := by
  rw [List.foldlM_cons, exec_bind, hfirst]
  exact hrest

/-- What a statement does to both, and how both end behind it. -/
theorem EndTogether.cons (hlist : listStatement l s = .ok l₁)
    (hrun : exec (c.emitStatement p s : Procedure Workspace Progress) w = (.ok p₁, w))
    (h : EndTogether c w rest l₁ p₁) : EndTogether c w (s :: rest) l p := by
  have hlisting : (s :: rest).foldlM listStatement l = rest.foldlM listStatement l₁ := by
    rw [List.foldlM_cons, hlist]
    rfl
  cases h with
  | pass hl hp hmatches => exact .pass (hlisting.trans hl) (exec_cons_of_ok hrun hp) hmatches
  | @stop before behind s' p' e heq hbefore hfault hl hp =>
    have hcons : s :: rest = (s :: before) ++ s' :: behind := by
      rw [heq, List.cons_append]
    exact .stop hcons (exec_cons_of_ok hrun hbefore) hfault (hlisting.trans hl)
      (exec_cons_of_ok hrun hp)

theorem EndTogether.of_isFault (h : Matches l p) {e : SchemaError} (he : Schema.IsFault s e) :
    EndTogether c w (s :: rest) l p := by
  have hfirst : s :: rest = [] ++ s :: rest := rfl
  refine .stop hfirst rfl he ?_ ?_
  · rw [List.foldlM_cons, listStatement_of_isFault he, h.output]
    rfl
  · rw [List.foldlM_cons, exec_bind, emitStatement_of_error he.notVoid he.parse]
    rfl

/-- A listing and a trial that have met the same tables end together. -/
theorem IsTrial.endTogether (hc : c.IsTrial)
    (hclear : ∀ t ∈ (Schema.ofStatements statements).tables, c.collidingKind? t.name = none)
    (h : Matches l p) : EndTogether c w statements l p := by
  induction statements generalizing l p with
  | nil => exact .pass rfl rfl h
  | cons s rest ih =>
    cases hvoid : Schema.isVoid (Text.dropBlankRows s) with
    | true =>
      rw [Schema.ofStatements_of_isVoid hvoid] at hclear
      refine EndTogether.cons (listStatement_of_isVoid hvoid) ?_ (ih hclear h)
      rw [emitStatement_of_isVoid hvoid]
      rfl
    | false =>
      cases hparse : Table.parse (Text.dropBlankRows s) with
      | error e => exact .of_isFault h ⟨hvoid, hparse⟩
      | ok t =>
        rw [Schema.ofStatements_of_ok hvoid hparse] at hclear
        obtain ⟨ht, hrest⟩ := List.forall_mem_cons.mp hclear
        obtain ⟨bs, hbs⟩ := hc.settles_emitTable ht p.combined w
        have hmatches : Matches ⟨l.output ++ tableLines t, l.count + 1⟩ ⟨bs, p.tables ++ [t]⟩ := by
          constructor
          · rw [h.output, List.flatMap_append, List.flatMap_singleton]
          · rw [h.count, List.length_append, List.length_singleton]
        refine EndTogether.cons (listStatement_of_ok hvoid hparse) ?_ (ih hrest hmatches)
        rw [emitStatement_of_ok hvoid hparse, hc.takes, if_pos rfl]
        exact exec_bind_eq_ok.mpr ⟨bs, w, hbs, rfl⟩

end Steps

/-- How the listing of a schema and a trial on it end: both succeed, or both meet the same
fault of the schema. -/
inductive EndAlike (c : Config) (w : Workspace) (sql : Text) : Prop where
  | success {statements : List Text} {l : Listed} {p : Progress} :
    Sql.statements sql = .ok statements → c.Passes w statements p → Matches l p →
    listTables sql = .ok l →
    exec (c.run sql : Procedure Workspace Report) w = (.ok (c.report p.tables), w) →
    EndAlike c w sql
  | fault {ts : List Table} {e : SchemaError} : c.Halts w sql ts e →
    listTables sql = .error (ts.flatMap tableLines, e) →
    exec (c.run sql : Procedure Workspace Report) w = (.error (.schema e), w) →
    EndAlike c w sql

theorem IsTrial.endAlike (hc : c.IsTrial) {sql : Text}
    (hclear : ∀ t ∈ (Schema.read sql).tables, c.collidingKind? t.name = none) :
    EndAlike c w sql := by
  have hrun : (c.run sql : Procedure Workspace Report) = _ := c.run_eq_runStepwise sql
  unfold runStepwise at hrun
  cases hsql : Sql.statements sql with
  | error e =>
    rw [hsql] at hrun
    refine .fault (.split hsql) ?_ ?_
    · rw [listTables, hsql]
      rfl
    · rw [hrun]
      rfl
  | ok statements =>
    rw [hsql] at hrun
    rw [Schema.read_of_statements hsql] at hclear
    have hlisting : listTables sql = statements.foldlM listStatement ⟨[], 0⟩ := by
      rw [listTables, hsql]
    have hstart : Matches ⟨[], 0⟩ c.start := ⟨rfl, rfl⟩
    cases hc.endTogether (w := w) hclear hstart with
    | @pass l p hl hp hmatches =>
      refine .success hsql hp hmatches (hlisting.trans hl) ?_
      rw [hrun]
      obtain ⟨_, hcombined⟩ := settles_emitCombined hc.dryRun p.combined w
      exact exec_bind_eq_ok.mpr ⟨p, w, hp, exec_bind_eq_ok.mpr ⟨_, w, hcombined, rfl⟩⟩
    | @stop before behind s p e heq hbefore hfault hl hp =>
      refine .fault (.statement (heq ▸ hsql) hbefore hfault) (hlisting.trans hl) ?_
      rw [hrun]
      exact exec_bind_eq_error.mpr (.inl hp)

namespace EndAlike

variable {sql : Text}

theorem finished_iff [ForeignSettings] (h : EndAlike c w sql) :
    (∃ output, inspection sql = .finished output)
      ↔ ∃ report, (exec (c.run sql : Procedure Workspace Report) w).1 = .ok report := by
  rw [inspection_eq]
  cases h with
  | success _ _ _ hl hrun =>
    rw [hl, hrun]
    exact ⟨fun _ => ⟨_, rfl⟩, fun _ => ⟨_, rfl⟩⟩
  | fault _ hl hrun =>
    rw [hl, hrun]
    constructor
    · intro hfinished
      obtain ⟨_, hfinished⟩ := hfinished
      cases hfinished
    · intro hreport
      obtain ⟨_, hreport⟩ := hreport
      cases hreport

/-- What is listed where the run succeeds. -/
theorem of_ok [ForeignSettings] (h : EndAlike c w sql) {report : Report}
    (hreport : (exec (c.run sql : Procedure Workspace Report) w).1 = .ok report) :
    ∃ statements p, Sql.statements sql = .ok statements ∧ c.Passes w statements p
      ∧ report.tables = p.tables.map (·.name)
      ∧ inspection sql = .finished (printed (p.tables.flatMap tableRows
        ++ ["Parsed ".toList ++ Text.ofNat report.tables.length ++ " tables".toList])) := by
  cases h with
  | fault _ _ hrun =>
    rw [hrun] at hreport
    cases hreport
  | @success statements l p hsql hp hmatches hl hrun =>
    rw [hrun] at hreport
    obtain rfl := Except.ok.inj hreport
    refine ⟨statements, p, hsql, hp, rfl, ?_⟩
    rw [inspection_eq, hl]
    dsimp only
    rw [hmatches.output, hmatches.count, Config.report, List.length_map, printed_append,
      flatMap_tableLines, countLine_eq]

theorem fault_iff (h : EndAlike c w sql) (e : SchemaError) :
    (∃ listed, listTables sql = .error (listed, e))
      ↔ (exec (c.run sql : Procedure Workspace Report) w).1 = .error (.schema e) := by
  cases h with
  | success _ _ _ hl hrun =>
    rw [hl, hrun]
    constructor
    · intro hlisted
      obtain ⟨_, hlisted⟩ := hlisted
      cases hlisted
    · intro hfault
      cases hfault
  | fault _ hl hrun =>
    rw [hl, hrun]
    constructor
    · intro hlisted
      obtain ⟨_, hlisted⟩ := hlisted
      cases hlisted
      rfl
    · intro hfault
      cases hfault
      exact ⟨_, rfl⟩

/-- What is listed where the run meets a fault. -/
theorem of_error [ForeignSettings] (h : EndAlike c w sql) {e : SchemaError}
    (hfault : (exec (c.run sql : Procedure Workspace Report) w).1 = .error (.schema e)) :
    ∃ ts, c.Halts w sql ts e
      ∧ inspection sql = .failed (printed (ts.flatMap tableRows))
        (printed ["Error: ".toList ++ e.message]) := by
  cases h with
  | success _ _ _ _ hrun =>
    rw [hrun] at hfault
    cases hfault
  | @fault ts _ hhalts hl hrun =>
    rw [hrun] at hfault
    cases hfault
    refine ⟨ts, hhalts, ?_⟩
    rw [inspection_eq, hl]
    dsimp only
    rw [flatMap_tableLines, errorReport_none]

end EndAlike

/-- If a run takes all tables of a schema, writes nothing and refuses no table, it meets the
tables that are listed: both succeed together, with the tables of the report and their number,
or both fail with the same fault of the schema, and what is listed are the tables that the run
has generated before it. -/
theorem IsTrial.inspection_meets_run [ForeignSettings] (hc : c.IsTrial) {sql : Text}
    (hclear : ∀ t ∈ (Schema.read sql).tables, c.collidingKind? t.name = none) (w : Workspace) :
    let run := exec (c.run sql : Procedure Workspace Report) w
    ((∃ output, inspection sql = .finished output) ↔ ∃ report, run.1 = .ok report)
    ∧ (∀ report, run.1 = .ok report → ∃ statements p, Sql.statements sql = .ok statements
      ∧ c.Passes w statements p ∧ report.tables = p.tables.map (·.name)
      ∧ inspection sql = .finished (printed (p.tables.flatMap tableRows
        ++ ["Parsed ".toList ++ Text.ofNat report.tables.length ++ " tables".toList])))
    ∧ (∀ e, (∃ listed, listTables sql = .error (listed, e)) ↔ run.1 = .error (.schema e))
    ∧ (∀ e, run.1 = .error (.schema e) → ∃ ts, c.Halts w sql ts e
      ∧ inspection sql = .failed (printed (ts.flatMap tableRows))
        (printed ["Error: ".toList ++ e.message]))
    ∧ ∀ words environment v, Inspects words environment v sql →
      (CommandLine.run words environment : StateM Workspace Outcome).run v
        = (inspection sql, v) := by
  intro run
  have halike : EndAlike c w sql := hc.endAlike hclear
  exact ⟨halike.finished_iff, fun _ => halike.of_ok, halike.fault_iff, fun _ => halike.of_error,
    fun _ _ _ => run_of_inspects⟩

end Config

end Trials

/-! ## A schema with a fault -/

namespace Sample

/-- Messages of all tables, without writing them. -/
def trial : Config := { Config.only {} .proto with dryRun := true }

/-- Two tables with a comment between them, and a statement that is no table. -/
def faulty : Text :=
  "CREATE TABLE IF NOT EXISTS a (id int);-- ;\n;CREATE TABLE IF NOT EXISTS b ();SELECT 1;".toList

/-- What is printed of the two tables. -/
def faultyRows : List Text :=
  ["Table: a", "  Columns:", "    - id int -> int32 [Identity] ",
    "  Missing conventional columns: [\"created_at\", \"updated_at\"]", "",
    "Table: b", "  Columns:",
    "  Missing conventional columns: [\"id\", \"created_at\", \"updated_at\"]", ""].map
      String.toList

end Sample

open CommandLine in
/-- The listing and the run end at the last but one statement. -/
theorem Config.IsTrial.inspection_meets_run_faulty :
    ∃ ts, Sample.trial.Halts {} Sample.faulty ts .tableNotFound
      ∧ inspection Sample.faulty = .failed (printed (ts.flatMap tableRows))
        (printed ["Error: ".toList ++ SchemaError.tableNotFound.message])
      ∧ printed (ts.flatMap tableRows) = printed Sample.faultyRows := by
  have hc : Sample.trial.IsTrial := ⟨rfl, rfl, rfl, rfl⟩
  have hclear : ∀ t ∈ (Schema.read Sample.faulty).tables,
      Sample.trial.collidingKind? t.name = none := by
    decide +kernel
  have hlisting : listTables Sample.faulty
      = .error (printed Sample.faultyRows, .tableNotFound) := by
    decide +kernel
  obtain ⟨-, -, hfault, hfails, -⟩ := hc.inspection_meets_run hclear {}
  obtain ⟨ts, hhalts, hinspection⟩ := hfails _ ((hfault _).mp ⟨_, hlisting⟩)
  have hprinted : printed (ts.flatMap tableRows) = printed Sample.faultyRows := by
    rw [inspection_eq, hlisting] at hinspection
    exact (Outcome.failed.inj hinspection).1.symm
  exact ⟨ts, hhalts, hinspection, hprinted⟩

end TableScaffold
