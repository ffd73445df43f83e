import TableScaffold.Proofs.Generation.Constraints
import TableScaffold.Proofs.Generation.Gluing
import TableScaffold.Proofs.Table.Filler
import TableScaffold.Proofs.Table.Tokenwise

set_option autoImplicit false

/-!
# Filler between statements

A statement that defines a table goes on defining it, but for the texts of its constraints, as
long as it keeps its tokens (`Schema.IsSound.of_keepsTokens`), and one without tokens defines none.
So filler at any boundary of the statements of a schema leaves its tables alone
(`Schema.outline_of_pads`), and a run that succeeds does the same on the schema with the filler
(`Config.run_of_inserted`).
-/

namespace TableScaffold

open Procedure
open Sql (HasTokens IsFiller KeepsTokens Pads)
open Written (solidTokens)

/-! ## Statements -/

namespace Schema

variable {s s' : Text}

/-- A text is no statement at all if it has no tokens. -/
theorem isVoid_iff {t : Text} : isVoid t = true ↔ HasTokens t [] := by
  rw [isVoid, Bool.or_eq_true, List.isEmpty_iff, Sql.isBlankStatement]
  constructor
  · rintro (rfl | h)
    · exact Sql.hasTokens_nil
    · split at h
      · next xs hxs =>
        refine ⟨xs, Sql.lex_eq_ok.mp hxs, Sql.solidTokens_eq_nil.mpr fun l hl => ?_⟩
        simpa using List.all_eq_true.mp h l hl
      · cases h
  · rintro ⟨xs, hxs, hnil⟩
    right
    rw [Sql.lex_eq_ok.mpr hxs]
    exact List.all_eq_true.mpr fun l hl => by simp [Sql.solidTokens_eq_nil.mp hnil l hl]

theorem IsSound.of_ok {t : Table} (h : Table.parse (Text.dropBlankRows s) = .ok t) : IsSound s := by
  right
  rw [h]
  rfl

theorem isSound_of_failure {pieces : List Text} (h : (ofStatements pieces).failure = none) :
    ∀ s ∈ pieces, IsSound s := by
  induction pieces with
  | nil => exact List.forall_mem_nil _
  | cons s pieces ih =>
    cases hvoid : isVoid (Text.dropBlankRows s) with
    | true =>
      rw [ofStatements_of_isVoid hvoid] at h
      exact List.forall_mem_cons.mpr ⟨.inl hvoid, ih h⟩
    | false =>
      cases hparse : Table.parse (Text.dropBlankRows s) with
      | error e =>
        rw [ofStatements_of_error hvoid hparse] at h
        cases h
      | ok t =>
        rw [ofStatements_of_ok hvoid hparse] at h
        exact List.forall_mem_cons.mpr ⟨.of_ok hparse, ih h⟩

theorem tableOf?_of_isVoid (h : isVoid (Text.dropBlankRows s) = true) : tableOf? s = none :=
  if_pos h

theorem tableOf?_of_ok {t : Table} (hvoid : isVoid (Text.dropBlankRows s) = false)
    (h : Table.parse (Text.dropBlankRows s) = .ok t) : tableOf? s = some t := by
  rw [tableOf?, hvoid, h, if_neg Bool.false_ne_true, Except.toOption]

/-- A text without tokens defines no table. -/
theorem of_hasTokens_nil (h : HasTokens s []) : IsSound s ∧ tableOf? s = none := by
  have hvoid := isVoid_iff.mpr h.dropBlankRows_nil
  exact ⟨.inl hvoid, tableOf?_of_isVoid hvoid⟩

/-- A table with its tokens. -/
theorem exists_tableOf?_of_keepsTokens {t : Table}
    (ht : Table.parse (Text.dropBlankRows s) = .ok t) (hkeeps : KeepsTokens s s') :
    ∃ t', isVoid (Text.dropBlankRows s') = false ∧ Table.parse (Text.dropBlankRows s') = .ok t'
      ∧ t'.outline = t.outline := by
  obtain ⟨xs, hxs⟩ := Table.exists_spells_of_parse ht
  rw [Table.parse_of_spells hxs] at ht
  obtain ⟨xs', hxs', hsame⟩ := hkeeps.twice ⟨xs, hxs, rfl⟩
  obtain ⟨t', ht', houtline⟩ := Table.exists_ofLexemes ht hsame
  refine ⟨t', ?_, by rw [Table.parse_of_spells hxs', ht'], houtline⟩
  apply Bool.eq_false_iff.mpr
  intro hvoid
  have hnil := (isVoid_iff.mp hvoid).dropBlankRows_nil.unique ⟨xs', hxs', hsame⟩
  exact Table.solidTokens_ne_nil ht hnil.symm

/-- A statement that keeps its tokens defines the same table, but for the texts of its
constraints. -/
theorem IsSound.of_keepsTokens (h : IsSound s) (hkeeps : KeepsTokens s s') :
    IsSound s' ∧ (tableOf? s').map Table.outline = (tableOf? s).map Table.outline := by
  cases hvoid : isVoid (Text.dropBlankRows s) with
  | true =>
    have hvoid' := isVoid_iff.mpr (hkeeps.once (isVoid_iff.mp hvoid))
    rw [tableOf?_of_isVoid hvoid, tableOf?_of_isVoid hvoid']
    exact ⟨.inl hvoid', rfl⟩
  | false =>
    cases hparse : Table.parse (Text.dropBlankRows s) with
    | error e =>
      unfold IsSound at h
      rw [hvoid, hparse] at h
      cases h <;> contradiction
    | ok t =>
      obtain ⟨t', hvoid', ht', houtline⟩ := exists_tableOf?_of_keepsTokens hparse hkeeps
      rw [tableOf?_of_ok hvoid hparse, tableOf?_of_ok hvoid' ht', Option.map_some,
        Option.map_some, houtline]
      exact ⟨.of_ok ht', rfl⟩

/-! ## Schemas -/

/-- Statements that take the place of another one define its table. -/
theorem filterMap_of_pads {t : Text} {pieces : List Text} (hs : IsSound s) (h : Pads s t pieces) :
    (∀ p ∈ pieces, IsSound p)
      ∧ (pieces.filterMap tableOf?).map Table.outline = (tableOf? s).toList.map Table.outline := by
  obtain ⟨before, s', behind, rfl, hkeeps, hbefore, hbehind⟩ := h.keeps
  obtain ⟨hsound, htable⟩ := hs.of_keepsTokens hkeeps
  have hnone {ps : List Text} (hps : ∀ p ∈ ps, HasTokens p []) : ps.filterMap tableOf? = [] :=
    List.filterMap_eq_nil_iff.mpr fun p hp => (of_hasTokens_nil (hps p hp)).2
  refine ⟨List.forall_mem_append.mpr ⟨fun p hp => (of_hasTokens_nil (hbefore p hp)).1,
    List.forall_mem_cons.mpr ⟨hsound, fun p hp => (of_hasTokens_nil (hbehind p hp)).1⟩⟩, ?_⟩
  rw [List.filterMap_append, hnone hbefore, List.nil_append, List.filterMap_cons, hnone hbehind,
    ← Option.toList_map, ← htable, Option.toList_map]
  cases tableOf? s' <;> rfl

/-- They leave the outline of the schema as it is. -/
theorem outline_of_pads {sql t : Text} {before behind pieces : List Text}
    (hpieces : Sql.statements sql = .ok (before ++ s :: behind))
    (hfailure : (read sql).failure = none) (h : Pads s t pieces) :
    (read (Text.join [';'] (before ++ t :: behind))).outline = (read sql).outline := by
  have hne : pieces ≠ [] := by
    obtain ⟨_, _, _, rfl, -⟩ := h.keeps
    simp
  have htext : Text.join [';'] (before ++ t :: behind)
      = Text.join [';'] (before ++ (pieces ++ behind)) := by
    rw [← h.text, Text.join_join hne]
  rw [htext, read_of_statements (Sql.statements_replace hpieces hne h.single h.settled
    fun _ => h.last), read_of_statements hpieces]
  rw [read_of_statements hpieces] at hfailure
  have hsound := isSound_of_failure hfailure
  rw [List.forall_mem_append, List.forall_mem_cons] at hsound
  obtain ⟨hpads, htables⟩ := filterMap_of_pads hsound.2.1 h
  rw [ofStatements_of_isSound, ofStatements_of_isSound (isSound_of_failure hfailure)]
  · have hcons : (s :: behind).filterMap tableOf?
        = (tableOf? s).toList ++ behind.filterMap tableOf? := by
      rw [List.filterMap_cons]
      cases tableOf? s <;> rfl
    unfold outline
    simp only [hcons, List.filterMap_append, List.map_append, htables]
  · rw [List.forall_mem_append, List.forall_mem_append]
    exact ⟨hsound.1, hpads, hsound.2.2⟩

end Schema

/-! ## Runs -/

/-- The second schema is the first one with a text at a boundary of one of its statements, in
front of it or behind it: at the beginning or the end of the schema, or on either side of a
semicolon between statements. -/
def Sql.IsInserted (f sql sql' : Text) : Prop :=
  ∃ before s behind, statements sql = .ok (before ++ s :: behind)
    ∧ (sql' = Text.join [';'] (before ++ (f ++ s) :: behind)
      ∨ sql' = Text.join [';'] (before ++ (s ++ f) :: behind))

/-- A schema with filler at a boundary of its statements has the same outline. -/
theorem Schema.outline_of_inserted {f sql sql' : Text} (hf : IsFiller f)
    (h : Sql.IsInserted f sql sql') (hfailure : (read sql).failure = none) :
    (read sql').outline = (read sql).outline := by
  obtain ⟨before, s, behind, hpieces, rfl | rfl⟩ := h
  all_goals have hs := Sql.statements_of_mem hpieces (List.mem_append_right _ List.mem_cons_self)
  · obtain ⟨pieces, hpads⟩ := Sql.exists_pads_front hs hf
    exact outline_of_pads hpieces hfailure hpads
  · obtain ⟨pieces, hpads⟩ := Sql.exists_pads_behind hs hf
    exact outline_of_pads hpieces hfailure hpads

namespace Config

section Running

variable [Template.Engine] [GoFormatter]

/-- A run that succeeds does the same on the schema with filler at a boundary of its
statements. -/
theorem run_of_inserted (c : Config) {f sql sql' : Text} {w w' : Workspace} {report : Report}
    (hf : IsFiller f) (hinserted : Sql.IsInserted f sql sql')
    (h : exec (c.run sql : Procedure Workspace Report) w = (.ok report, w')) :
    exec (c.run sql' : Procedure Workspace Report) w = (.ok report, w')
      ∧ ∀ (m : Type → Type) [Monad m] [FileAccess m] [FormatAccess m],
        (c.run sql' : ExceptT ScaffoldError m Report) = c.run sql := by
  obtain ⟨hfailure, -⟩ := exists_produces_of_run h
  have houtline := Schema.outline_of_inserted hf hinserted hfailure
  refine ⟨?_, fun m _ _ _ => c.run_eq_of_outline houtline⟩
  rw [c.run_eq_of_outline houtline, h]

end Running

end Config

namespace Sample

/-- Filler with a semicolon, a quote and the header of a table in a comment within a comment,
more semicolons, and a line comment that ends with the filler. -/
def filler : Text :=
  '\n' :: '/' :: '*' :: ("; ' /* CREATE TABLE IF NOT EXISTS c ( */ */".toList
    ++ ';' :: '\t' :: ';' :: '-' :: '-' :: (" \";'".toList ++ '\n' :: []))

theorem isFiller_filler : IsFiller filler where
  filling := .space (by decide) (.block (by decide) (.semicolon (.space (by decide)
    (.semicolon (.line (by decide) (by decide) .nil)))))
  begins := ⟨['\n'], by decide, by decide⟩
  ends := ⟨['\n'], by decide, by decide⟩

def bothTables : Text := firstTable ++ ';' :: secondTable

theorem statements_bothTables : Sql.statements bothTables = .ok [firstTable, secondTable] := by
  decide +kernel

theorem run_bothTables : exec (config.run bothTables : Procedure Workspace Report) workspace
    = (.ok report, generated) := by
  decide +kernel

end Sample

/-- Filler behind the last of two tables. -/
theorem Config.run_of_inserted_behind :
    Sql.IsInserted Sample.filler Sample.bothTables (Sample.bothTables ++ Sample.filler)
      ∧ IsFiller Sample.filler
      ∧ exec (Sample.config.run (Sample.bothTables ++ Sample.filler) : Procedure Workspace Report)
          Sample.workspace
        = (.ok Sample.report, Sample.generated) := by
  have hinserted : Sql.IsInserted Sample.filler Sample.bothTables
      (Sample.bothTables ++ Sample.filler) :=
    ⟨[Sample.firstTable], Sample.secondTable, [], Sample.statements_bothTables, .inr rfl⟩
  exact ⟨hinserted, Sample.isFiller_filler,
    (run_of_inserted Sample.config Sample.isFiller_filler hinserted Sample.run_bothTables).1⟩

end TableScaffold
