import TableScaffold.Proofs.Generation.Plan

set_option autoImplicit false

/-!
# A run, statement by statement

The tables of a schema can be generated while it is read.  Then the statements are gone
through one by one (`Config.emitStatement`): what is no statement is passed over, what is
no table ends the run, and a table is generated at once if the filter takes it.  That is the
same action as the run (`Config.run_eq_runStepwise`), since reading a statement does nothing
to the files.
-/

namespace TableScaffold

/-- What a run has when it has gone through some statements. -/
structure Progress where
  combined : List Combined
  tables : List Table

namespace Config

variable {m : Type → Type} [Monad m] [FileAccess m] [FormatAccess m] [Template.Engine]

/-- What a run has before the first statement. -/
def start (c : Config) : Progress := ⟨c.enabledKinds.map Combined.empty, []⟩

/-- Reads one statement, and generates its table if there is one and the filter takes it. -/
def emitStatement (c : Config) (p : Progress) (s : Text) : ExceptT ScaffoldError m Progress :=
  let statement := Text.dropBlankRows s
  if Schema.isVoid statement then pure p
  else
    match Table.parse statement with
    | .error e => throw (.schema e)
    | .ok t =>
      if c.filter.takes t.name then do
        return ⟨← c.emitTable p.combined t, p.tables ++ [t]⟩
      else pure p

/-- Generates the artifacts of a schema while it is read. -/
def runStepwise (c : Config) (sql : Text) : ExceptT ScaffoldError m Report :=
  match Sql.statements sql with
  | .error e => throw (.schema (.unreadable e))
  | .ok statements => do
    let p ← statements.foldlM c.emitStatement c.start
    c.emitCombined p.combined
    return c.report p.tables

section Statement

variable {c : Config} {p : Progress} {s : Text}

theorem emitStatement_of_isVoid (h : Schema.isVoid (Text.dropBlankRows s) = true) :
    (c.emitStatement p s : ExceptT ScaffoldError m Progress) = pure p := by
  unfold emitStatement
  exact if_pos h

theorem emitStatement_of_error (h : Schema.isVoid (Text.dropBlankRows s) = false)
    {e : SchemaError} (he : Table.parse (Text.dropBlankRows s) = .error e) :
    (c.emitStatement p s : ExceptT ScaffoldError m Progress) = throw (.schema e) := by
  unfold emitStatement
  dsimp only
  rw [if_neg (Bool.eq_false_iff.mp h), he]

theorem emitStatement_of_ok (h : Schema.isVoid (Text.dropBlankRows s) = false) {t : Table}
    (ht : Table.parse (Text.dropBlankRows s) = .ok t) :
    (c.emitStatement p s : ExceptT ScaffoldError m Progress)
      = if c.filter.takes t.name then do
          return ⟨← c.emitTable p.combined t, p.tables ++ [t]⟩
        else pure p := by
  unfold emitStatement
  dsimp only
  rw [if_neg (Bool.eq_false_iff.mp h), ht]

end Statement

variable [LawfulMonad m] (c : Config)

omit [FileAccess m] [FormatAccess m] [Template.Engine] in
/-- Nothing is done behind a failure. -/
theorem throw_bind {α β : Type} (e : ScaffoldError) (f : α → ExceptT ScaffoldError m β) :
    (throw e >>= f : ExceptT ScaffoldError m β) = throw e := by
  apply ExceptT.ext
  rw [ExceptT.run_bind, ExceptT.run_throw, pure_bind]
  rfl

/-- Going through the statements generates the tables of the schema up to its first fault. -/
theorem foldlM_emitStatement (statements : List Text) (p : Progress) :
    (statements.foldlM c.emitStatement p : ExceptT ScaffoldError m Progress) = do
      let bs ← (c.selected (Schema.ofStatements statements)).foldlM c.emitTable p.combined
      match (Schema.ofStatements statements).failure with
      | some e => throw (.schema e)
      | none => return ⟨bs, p.tables ++ c.selected (Schema.ofStatements statements)⟩ := by
  induction statements generalizing p with
  | nil =>
    change pure p = pure p.combined >>= fun bs => pure ⟨bs, p.tables ++ []⟩
    rw [pure_bind, List.append_nil]
  | cons s rest ih =>
    rw [List.foldlM_cons]
    cases hvoid : Schema.isVoid (Text.dropBlankRows s) with
    | true =>
      rw [emitStatement_of_isVoid hvoid, pure_bind, ih, Schema.ofStatements_of_isVoid hvoid]
    | false =>
      cases hparse : Table.parse (Text.dropBlankRows s) with
      | error e =>
        rw [emitStatement_of_error hvoid hparse, Schema.ofStatements_of_error hvoid hparse]
        change (throw _ >>= _) = pure p.combined >>= fun _ => throw _
        rw [pure_bind, throw_bind]
      | ok t =>
        rw [emitStatement_of_ok hvoid hparse, Schema.ofStatements_of_ok hvoid hparse]
        cases htakes : c.filter.takes t.name with
        | false =>
          have hselected : c.selected ((Schema.ofStatements rest).cons t)
              = c.selected (Schema.ofStatements rest) :=
            List.filter_cons_of_neg (by simp [htakes])
          rw [if_neg Bool.false_ne_true, pure_bind, ih, hselected]
          rfl
        | true =>
          have hselected : c.selected ((Schema.ofStatements rest).cons t)
              = t :: c.selected (Schema.ofStatements rest) :=
            List.filter_cons_of_pos htakes
          rw [if_pos rfl, hselected, List.foldlM_cons, bind_assoc, bind_assoc]
          apply bind_congr
          intro bs
          rw [pure_bind, ih, List.append_assoc]
          rfl

/-- The tables of a schema can be generated once it is read, or while it is read. -/
theorem emit_eq_runStepwise (sql : Text) :
    (c.emit sql : ExceptT ScaffoldError m Report) = c.runStepwise sql := by
  unfold emit runStepwise Schema.read
  cases Sql.statements sql with
  | error e =>
    change ((pure (c.enabledKinds.map Combined.empty) : ExceptT ScaffoldError m (List Combined))
      >>= fun _ => throw _ >>= _) = throw _
    rw [pure_bind, throw_bind]
  | ok statements =>
    dsimp only
    rw [foldlM_emitStatement, bind_assoc]
    apply bind_congr
    intro bs
    cases (Schema.ofStatements statements).failure with
    | some e =>
      dsimp only
      rw [throw_bind, throw_bind]
    | none =>
      rw [pure_bind]
      rfl

/-- A run generates the tables of a schema as it would while it reads the schema. -/
theorem run_eq_runStepwise {σ : Type} [FileAccess (StateM σ)] [FormatAccess (StateM σ)]
    (sql : Text) : (c.run sql : Procedure σ Report) = c.runStepwise sql :=
  (c.run_eq_emit sql).trans (c.emit_eq_runStepwise sql)

end Config

end TableScaffold
