import TableScaffold.CommandLine.Program
import TableScaffold.Proofs.Generation.Failure
import TableScaffold.Proofs.Generation.Throws
import TableScaffold.Proofs.Sql.Dropping
import TableScaffold.Proofs.Sql.Statement

set_option autoImplicit false

/-!
# A schema that was split is read

The statements of a schema can be read one by one, and so can they without their empty rows
(`Sql.lexes_dropBlankRows`): a statement that defines no table lacks a header or is
malformed.  A run fails with a fault of the schema only if the schema has it
(`Config.throws_run`), so once the schema is split, neither a run nor a listing meets any
other fault of it (`readable_of_statements`).
-/

namespace TableScaffold

/-! ## Statements that can be read -/

namespace Sql

/-- A text that is cut into statements is cut into texts that can be read. -/
theorem lexes_of_mem_statements {t s : Text} {pieces : List Text} (h : statements t = .ok pieces)
    (hs : s ∈ pieces) : Lexes false s := by
  have hjoin := join_statements h
  have hall := (statements_join (statements_ne_nil h)).mp (by rw [hjoin, h])
  obtain ⟨xs, hxs, -⟩ := statements_eq_singleton.mp (hall.1 s hs)
  exact ⟨xs, hxs⟩

end Sql

/-- A fault of a statement that can be read. -/
def SchemaError.IsReadable : SchemaError → Prop
  | tableNotFound => True
  | malformed _ _ => True
  | unreadable _ => False

theorem Table.ofTokens_error {source : Text} {ts : List Sql.Placed} {e : SchemaError}
    (h : ofTokens source ts = .error e) : e.IsReadable := by
  unfold ofTokens at h
  split at h
  · obtain rfl := Except.error.inj h
    trivial
  · split at h
    · contradiction
    · obtain rfl := Except.error.inj h
      trivial

theorem Table.parse_error {s : Text} (hs : Sql.Lexes false s) {e : SchemaError}
    (h : parse s = .error e) : e.IsReadable := by
  obtain ⟨xs, hxs⟩ := Sql.lexes_dropBlankRows hs
  have htokens : Sql.tokens (Text.dropBlankRows s) = .ok (Sql.place Location.start xs) := by
    unfold Sql.tokens
    rw [Sql.lex_eq_ok.mpr hxs]
    rfl
  unfold parse at h
  dsimp only at h
  rw [htokens] at h
  exact ofTokens_error h

theorem Schema.failure_isReadable {sql : Text} {pieces : List Text}
    (hpieces : Sql.statements sql = .ok pieces) {e : SchemaError}
    (h : (Schema.read sql).failure = some e) : e.IsReadable := by
  rw [Schema.read, hpieces] at h
  obtain ⟨before, s, behind, rfl, -, -, hparse⟩ := Config.exists_of_failure (c := {}) h
  exact Table.parse_error (Sql.lexes_dropBlankRows (Sql.lexes_of_mem_statements hpieces (by simp)))
    hparse

/-! ## Faults of the schema in a run -/

open Procedure

/-- A run fails with a fault of the schema only if the schema has that fault. -/
theorem Config.throws_run {σ : Type} [FileAccess (StateM σ)] [FormatAccess (StateM σ)]
    [Template.Engine] (c : Config) (sql : Text) :
    Throws (fun e => ∀ fault, e = .schema fault → (Schema.read sql).failure = some fault)
      (c.run sql : Procedure σ Report) := by
  apply throws_run_of_steps
  case hvalidation => exact fun _ => nofun
  case hwrite => exact fun _ _ => nofun
  case htemplates =>
    have hrender (name : Text) (slots : Slots) :
        Throws (fun e => ∀ fault, e = .schema fault → (Schema.read sql).failure = some fault)
          (c.templateSource.render name slots : Procedure σ Text) :=
      throws_render (fun _ => nofun) (fun _ _ => nofun) (fun _ => nofun) _ _ _
    exact fun k t => ⟨hrender _ _, hrender _ _⟩
  case hschema =>
    intro fault hfailure fault' heq
    rw [hfailure, ScaffoldError.schema.inj heq]

/-! ## Once a schema is split -/

/-- When a schema has been split, every statement can be read, with its empty rows and
without them, and neither a run nor a listing meets a fault of the schema other than a
statement without a table header or with a malformed table. -/
theorem readable_of_statements [Template.Engine] [GoFormatter] {sql : Text} {pieces : List Text}
    (h : Sql.statements sql = .ok pieces) :
    (∀ s ∈ pieces, ∀ e, Table.parse (Text.dropBlankRows s) ≠ .error (.unreadable e)
      ∧ Table.parse s ≠ .error (.unreadable e))
    ∧ (∀ (c : Config) (w w' : Workspace) (fault : SchemaError),
        exec (c.run sql : Procedure Workspace Report) w = (.error (.schema fault), w') →
        fault = .tableNotFound ∨ ∃ g l, fault = .malformed g l)
    ∧ ((∃ output, CommandLine.inspection sql = .finished output)
      ∨ ∃ output fault, (fault = .tableNotFound ∨ ∃ g l, fault = .malformed g l)
        ∧ CommandLine.inspection sql
          = .failed output (CommandLine.errorReport (SchemaError.message fault) none)) := by
  have hreadable {fault : SchemaError} (hfault : fault.IsReadable) :
      fault = .tableNotFound ∨ ∃ g l, fault = .malformed g l := by
    cases fault with
    | tableNotFound => exact .inl rfl
    | malformed g l => exact .inr ⟨g, l, rfl⟩
    | unreadable e => contradiction
  refine ⟨fun s hs e => ?_, fun c w w' fault hrun => ?_, ?_⟩
  · have hlexes := Sql.lexes_of_mem_statements h hs
    exact ⟨fun he => Table.parse_error (Sql.lexes_dropBlankRows hlexes) he,
      fun he => Table.parse_error hlexes he⟩
  · have hfailure := Config.throws_run c sql w _ w' hrun fault rfl
    exact hreadable (Schema.failure_isReadable h hfailure)
  · unfold CommandLine.inspection
    dsimp only
    cases hfailure : (Schema.read sql).failure with
    | none => exact .inl ⟨_, rfl⟩
    | some fault =>
      exact .inr ⟨_, fault, hreadable (Schema.failure_isReadable h hfailure), rfl⟩

theorem readable_of_statements_rows :
    Sql.statements "CREATE TABLE a;\nSELECT '\r\n \n;'".toList
        = .ok ["CREATE TABLE a".toList, "\nSELECT '\r\n \n;'".toList]
      ∧ (∀ e, Table.parse "\nSELECT '\r\n \n;'".toList ≠ .error (.unreadable e))
      ∧ ∃ output fault, (fault = .tableNotFound ∨ ∃ g l, fault = .malformed g l)
        ∧ CommandLine.inspection "CREATE TABLE a;\nSELECT '\r\n \n;'".toList
          = .failed output (CommandLine.errorReport (SchemaError.message fault) none) := by
  have h : Sql.statements "CREATE TABLE a;\nSELECT '\r\n \n;'".toList
      = .ok ["CREATE TABLE a".toList, "\nSELECT '\r\n \n;'".toList] := by
    decide +kernel
  obtain ⟨hparse, -, hinspection⟩ := readable_of_statements h
  refine ⟨h, fun e => (hparse _ (by simp) e).2, hinspection.resolve_left ?_⟩
  rintro ⟨output, houtput⟩
  have hfails : (CommandLine.inspection "CREATE TABLE a;\nSELECT '\r\n \n;'".toList).code = 1 := by
    decide +kernel
  rw [houtput] at hfails
  contradiction

end TableScaffold
