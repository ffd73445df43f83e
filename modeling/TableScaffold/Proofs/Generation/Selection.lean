import TableScaffold.Proofs.Generation.Plan
import TableScaffold.Proofs.Generation.Refinement
import TableScaffold.Proofs.Sql.Statement
import TableScaffold.Proofs.Text.Rows

set_option autoImplicit false

/-!
# Leaving tables out

A table that the filter does not take leaves no trace in a run: the run is the one that
takes all tables, on the schema without the statement of that table
(`run_eq_run_withoutFiltered`).  No part of a run but the choice of the tables looks at the
include and exclude lists, and what is left of the statements of a schema is read as before
when it is joined again.
-/

namespace TableScaffold

open Procedure

/-! ## Lists of names -/

/-- A name that is written in a list: white space aside, it is what stands between two
commas, and it is not empty. -/
def IsListed (list name : Text) : Prop :=
  name ≠ [] ∧ ∃ entries, list = Text.join [','] entries ∧ (∀ e ∈ entries, ',' ∉ e)
    ∧ ∃ e ∈ entries, Text.trim e = name

theorem mem_namesOfList {list name : Text} : name ∈ namesOfList list ↔ IsListed list name := by
  unfold namesOfList
  rw [List.mem_filter, List.mem_map]
  constructor
  · rintro ⟨⟨e, he, htrim⟩, hname⟩
    refine ⟨by simpa using hname, Text.splitOn ',' list, (Text.join_splitOn ',' list).symm, ?_,
      e, he, htrim⟩
    intro entry hentry
    exact Text.not_mem_of_mem_splitOn hentry
  · rintro ⟨hname, entries, rfl, hentries, e, he, htrim⟩
    rw [Text.splitOn_join (List.ne_nil_of_mem he) hentries]
    exact ⟨⟨e, he, htrim⟩, by simpa using hname⟩

/-- Which tables are taken, read off the lists as they are written. -/
theorem TableFilter.takes_ofLists {included excluded table : Text} :
    (ofLists included excluded).takes table = true
      ↔ ¬ IsListed excluded table
        ∧ (Text.trim included = ['*'] ∨ Text.trim included = [] ∨ IsListed included table) := by
  have hall : includesAll included = true
      ↔ Text.trim included = ['*'] ∨ Text.trim included = [] := by
    simp [includesAll]
  unfold takes ofLists
  dsimp only
  rw [Bool.and_eq_true, and_comm, Bool.not_eq_true', ← Bool.not_eq_true, List.contains_iff_mem,
    mem_namesOfList, ← or_assoc, ← hall]
  apply and_congr_right
  intro _
  cases includesAll included with
  | true => simp
  | false => simp [mem_namesOfList]

/-! ## Statements that are kept -/

namespace Schema

/-- The table that a statement defines, if it defines one. -/
def tableOf? (statement : Text) : Option Table :=
  if isVoid (Text.dropBlankRows statement) then none
  else (Table.parse (Text.dropBlankRows statement)).toOption

/-- A statement that is no statement at all or defines a table. -/
def IsSound (statement : Text) : Prop :=
  isVoid (Text.dropBlankRows statement) = true
    ∨ (Table.parse (Text.dropBlankRows statement)).isOk = true

instance (statement : Text) : Decidable (IsSound statement) :=
  inferInstanceAs (Decidable (_ ∨ _))

theorem ofStatements_cons {s : Text} {rest : List Text} (h : IsSound s) :
    ofStatements (s :: rest) = match tableOf? s with
      | none => ofStatements rest
      | some t => (ofStatements rest).cons t := by
  unfold tableOf?
  cases hvoid : isVoid (Text.dropBlankRows s) with
  | true => exact ofStatements_of_isVoid hvoid
  | false =>
    cases hparse : Table.parse (Text.dropBlankRows s) with
    | ok t =>
      rw [ofStatements_of_ok hvoid hparse]
      rfl
    | error e =>
      unfold IsSound at h
      rw [hvoid, hparse] at h
      cases h <;> contradiction

/-- Sound statements hold the tables that they define one by one. -/
theorem ofStatements_of_isSound {statements : List Text} (h : ∀ s ∈ statements, IsSound s) :
    ofStatements statements = ⟨statements.filterMap tableOf?, none⟩ := by
  induction statements with
  | nil => rfl
  | cons s rest ih =>
    rw [List.forall_mem_cons] at h
    rw [ofStatements_cons h.1, ih h.2]
    cases htable : tableOf? s with
    | none => rw [List.filterMap_cons_none htable]
    | some t =>
      rw [List.filterMap_cons_some htable]
      rfl

/-- A schema of some of the statements of another one holds these statements. -/
theorem read_join_of_sublist {sql : Text} {pieces kept : List Text}
    (h : Sql.statements sql = .ok pieces) (hkept : kept.Sublist pieces) :
    read (Text.join [';'] kept) = ofStatements kept := by
  cases kept with
  | nil =>
    have hempty : Sql.statements [] = .ok [[]] :=
      Sql.statements_eq_ok.mpr ⟨[], Sql.lexemes_eq_ok_nil.mpr rfl, rfl⟩
    rw [Text.join_nil, read_of_statements hempty]
    rfl
  | cons s rest =>
    exact read_of_statements (Sql.statements_join_of_sublist h hkept (List.cons_ne_nil s rest))

end Schema

namespace Config

variable (c : Config)

/-- The configuration that leaves no table out. -/
def takingAll : Config := { c with includeTables := ['*'], excludeTables := [] }

/-- Whether a statement stays when the statements of the tables that are left out go. -/
def keepsStatement (statement : Text) : Bool :=
  (Schema.tableOf? statement).all fun t => c.filter.takes t.name

/-- The schema of those of the statements that stay. -/
def withoutFiltered (pieces : List Text) : Text :=
  Text.join [';'] (pieces.filter c.keepsStatement)

theorem takes_takingAll (table : Text) : c.takingAll.filter.takes table = true := rfl

theorem selected_takingAll (s : Schema) : c.takingAll.selected s = s.tables := by
  unfold selected
  apply List.filter_eq_self.mpr
  intro t _
  exact c.takes_takingAll t.name

/-- The statements that stay define the tables that are taken. -/
theorem filterMap_keepsStatement (pieces : List Text) :
    (pieces.filter c.keepsStatement).filterMap Schema.tableOf?
      = (pieces.filterMap Schema.tableOf?).filter fun t => c.filter.takes t.name := by
  rw [List.filterMap_filter, List.filter_filterMap]
  congr 1
  funext s
  unfold keepsStatement
  cases Schema.tableOf? s <;> rfl

variable {c} {sql : Text} {pieces : List Text}

/-- The schema without the tables that are left out holds the tables that are taken. -/
theorem read_withoutFiltered (h : Sql.statements sql = .ok pieces)
    (hsound : ∀ s ∈ pieces, Schema.IsSound s) :
    Schema.read (c.withoutFiltered pieces) = ⟨c.selected (Schema.read sql), none⟩ := by
  have hkept : (pieces.filter c.keepsStatement).Sublist pieces := List.filter_sublist
  unfold withoutFiltered
  rw [Schema.read_join_of_sublist h hkept, Schema.read_of_statements h,
    Schema.ofStatements_of_isSound hsound,
    Schema.ofStatements_of_isSound fun s hs => hsound s (hkept.subset hs),
    filterMap_keepsStatement]
  rfl

/-- A run is told by the tables of its schema that it takes and by the fault of the schema;
nothing else in it looks at the lists of tables. -/
theorem run_takingAll {m : Type → Type} [Monad m] [FileAccess m] [FormatAccess m]
    [Template.Engine] {sql' : Text}
    (h : Schema.read sql' = ⟨c.selected (Schema.read sql), (Schema.read sql).failure⟩) :
    (c.run sql : ExceptT ScaffoldError m Report) = c.takingAll.run sql' := by
  unfold run generateSchema
  dsimp only
  rw [h, selected_takingAll]
  rfl

/-- Filtering is deleting: a run is the same action on files, with the same result, as the
run that takes all tables is on the schema without the statements of the tables that are left
out.  A table is left out if it is listed among the excluded tables, or if there is a list of
included tables that it does not stand in. -/
theorem run_eq_run_withoutFiltered [Template.Engine] (c : Config) {sql : Text}
    {pieces : List Text} (h : Sql.statements sql = .ok pieces)
    (hsound : ∀ s ∈ pieces, Schema.IsSound s) :
    (∀ (m : Type → Type) [Monad m] [FileAccess m] [FormatAccess m],
      (c.run sql : ExceptT ScaffoldError m Report) = c.takingAll.run (c.withoutFiltered pieces))
    ∧ ∀ table, c.filter.takes table = true
      ↔ ¬ IsListed c.excludeTables table
        ∧ (Text.trim c.includeTables = ['*'] ∨ Text.trim c.includeTables = []
          ∨ IsListed c.includeTables table) := by
  constructor
  · intro m _ _ _
    apply run_takingAll
    rw [read_withoutFiltered h hsound, Schema.read_of_statements h,
      Schema.ofStatements_of_isSound hsound]
  · intro table
    exact TableFilter.takes_ofLists

end Config

/-! ## A table that would be refused -/

namespace Sample

/-- Messages of all tables but one. -/
def leavingOut : Config :=
  { Config.only { outputDir := "o".toList } .proto with
    excludeTables := " storehouse_service ,".toList }

def unwanted : Text := "CREATE TABLE IF NOT EXISTS storehouse_service ()".toList

def wanted : Text := " CREATE TABLE IF NOT EXISTS a ()".toList

end Sample

/-- A table that has the name of the combined file does no harm if it is left out. -/
theorem Config.run_eq_run_withoutFiltered_refused :
    (Sample.leavingOut.run (Sample.unwanted ++ ';' :: Sample.wanted) : Procedure Workspace Report)
        = Sample.leavingOut.takingAll.run Sample.wanted
      ∧ ¬ (IsListed " storehouse_service ,".toList "a".toList) := by
  have hstatements : Sql.statements (Sample.unwanted ++ ';' :: Sample.wanted)
      = .ok [Sample.unwanted, Sample.wanted] := by
    decide +kernel
  have hkept : Sample.leavingOut.withoutFiltered [Sample.unwanted, Sample.wanted]
      = Sample.wanted := by
    decide +kernel
  obtain ⟨hrun, htakes⟩ := run_eq_run_withoutFiltered Sample.leavingOut hstatements
    (by decide +kernel)
  rw [hkept] at hrun
  exact ⟨hrun (StateM Workspace), ((htakes "a".toList).mp (by decide)).1⟩

end TableScaffold
