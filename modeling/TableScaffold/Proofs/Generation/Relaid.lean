import TableScaffold.Proofs.Generation.Gluing
import TableScaffold.Proofs.Sql.Layout
import TableScaffold.Proofs.Table.Joined

set_option autoImplicit false

/-!
# The layout of a schema in lines

A schema that can be read may be laid out in other lines (`Text.Relaid`): line feeds may become
carriage returns with line feeds, and rows of spaces and tabs may stand behind any line break,
also within comments, quoted text and expressions.  Line break by line break, the schema falls
into the same statements but for their empty rows (`Sql.SameRows.of_relaid`).  So a run that
succeeds does the same on the schema in its new layout (`Config.run_of_relaid`).
-/

namespace TableScaffold

open Procedure

/-! ## Layouts -/

namespace Text

/-- The second text is the first one in another layout: every line feed is a line break of one
kind or the other, behind which there may be rows of spaces and tabs.  The last of these may end
with the text. -/
inductive Relaid : Text → Text → Prop where
  | nil : Relaid [] []
  | keep {c : Char} {t t' : Text} (hc : c ≠ '\n') (h : Relaid t t') : Relaid (c :: t) (c :: t')
  | spaced {g t t' : Text} (hg : IsSpacing g) (h : Relaid t t') : Relaid ('\n' :: t) (g ++ t')
  | last {g w : Text} (hg : IsSpacing g) (hw : IsSpaces w) : Relaid ['\n'] (g ++ w)

theorem Relaid.row {p t t' : Text} (hp : '\n' ∉ p) (h : Relaid t t') : Relaid (p ++ t) (p ++ t') := by
  induction p with
  | nil => exact h
  | cons c p ih =>
    simp only [List.mem_cons, not_or] at hp
    exact .keep (Ne.symm hp.1) (ih hp.2)

/-- All line feeds become the same line break with the same rows behind it. -/
theorem Relaid.join {g : Text} (hg : IsSpacing g) {rows : List Text}
    (hrows : ∀ row ∈ rows, '\n' ∉ row) : Relaid (join ['\n'] rows) (join g rows) := by
  have hend {row : Text} (hrow : '\n' ∉ row) : Relaid row row := by
    have h := Relaid.row hrow .nil
    rwa [List.append_nil] at h
  induction rows with
  | nil => exact .nil
  | cons row rows ih =>
    rw [List.forall_mem_cons] at hrows
    cases rows with
    | nil => exact hend hrows.1
    | cons row' rows =>
      rw [join_cons_cons, join_cons_cons, List.append_assoc, List.append_assoc]
      exact .row hrows.1 (.spaced hg (ih hrows.2))

end Text

/-! ## Statements -/

namespace Sql

open Text (IsSpacing IsSpaces Relaid)

/-- If the first text falls into statements, then so does the second one, and without their
empty rows they are the same. -/
def SameRows (t t' : Text) : Prop := ∀ pieces, statements t = .ok pieces →
  ∃ pieces', statements t' = .ok pieces'
    ∧ pieces'.map Text.dropBlankRows = pieces.map Text.dropBlankRows

namespace SameRows

variable {t t' t'' : Text}

theorem refl (t : Text) : SameRows t t := fun pieces h => ⟨pieces, h, rfl⟩

theorem trans (h : SameRows t t') (h' : SameRows t' t'') : SameRows t t'' := by
  intro pieces hpieces
  obtain ⟨pieces', hpieces', hrows⟩ := h pieces hpieces
  obtain ⟨pieces'', hpieces'', hrows'⟩ := h' pieces' hpieces'
  exact ⟨pieces'', hpieces'', hrows'.trans hrows⟩

end SameRows

/-- A line break with rows behind it is a line feed, or white space with a line feed at its
end. -/
theorem cases_of_isSpacing {g : Text} (h : IsSpacing g) : g = ['\n']
    ∨ ∃ d r, g = d :: r ++ ['\n'] ∧ d ∈ lineEnds ∧ ∀ c ∈ d :: r, c ∈ spaceMarks := by
  have hwide {b : Text} (hb : b ∈ Text.lineBreaks) {w : Text} (hw : ∀ c ∈ w, c ∈ spaceMarks) :
      ∃ v, w ++ b = v ++ ['\n'] ∧ ∀ c ∈ v, c ∈ spaceMarks := by
    simp only [Text.lineBreaks, List.mem_cons, List.not_mem_nil, or_false] at hb
    rcases hb with rfl | rfl
    · exact ⟨w, rfl, hw⟩
    · refine ⟨w ++ ['\r'], by simp, List.forall_mem_append.mpr ⟨hw, by decide⟩⟩
  induction h with
  | @first b hb =>
    simp only [Text.lineBreaks, List.mem_cons, List.not_mem_nil, or_false] at hb
    rcases hb with rfl | rfl
    · exact .inl rfl
    · exact .inr ⟨'\r', [], rfl, by decide, by decide⟩
  | @row g w b _ hw hb ih =>
    right
    have hspaces : ∀ c ∈ w, c ∈ spaceMarks := by
      intro c hc
      rcases hw c hc with rfl | rfl <;> decide
    obtain ⟨v, hv, hmarks⟩ := hwide hb hspaces
    rcases ih with rfl | ⟨d, r, rfl, hd, hr⟩
    · exact ⟨'\n', v, by rw [hv]; rfl, by decide, List.forall_mem_cons.mpr ⟨by decide, hmarks⟩⟩
    · refine ⟨d, r ++ '\n' :: v, ?_, hd, ?_⟩
      · rw [hv]
        simp
      · rw [← List.cons_append, List.forall_mem_append, List.forall_mem_cons (a := '\n')]
        exact ⟨hr, by decide, hmarks⟩

theorem exists_concat_of_isSpacing {g : Text} (h : IsSpacing g) : ∃ v, g = v ++ ['\n'] := by
  rcases cases_of_isSpacing h with rfl | ⟨d, r, rfl, -, -⟩
  · exact ⟨[], rfl⟩
  · exact ⟨d :: r, rfl⟩

theorem hasTokens_of_isSpaces {w : Text} (h : IsSpaces w) : HasTokens w [] := by
  rw [hasTokens_nil_iff]
  induction w with
  | nil => exact lexesInto_nil _ _
  | cons c w ih =>
    unfold IsSpaces at h
    rw [List.forall_mem_cons] at h
    refine lexesInto_cons.mpr ⟨.blank, 0, ?_, rfl, ih h.2⟩
    rcases h.1 with rfl | rfl <;> rfl

namespace SameRows

variable {x : Text}

/-- One line break. -/
theorem of_isSpacing {g : Text} (hg : IsSpacing g) (hx : x.getLast? ≠ some '\r') (t : Text) :
    SameRows (x ++ '\n' :: t) (x ++ (g ++ t)) := by
  intro pieces hpieces
  rcases cases_of_isSpacing hg with rfl | ⟨d, r, rfl, hd, hr⟩
  · exact ⟨pieces, hpieces, rfl⟩
  · obtain ⟨pieces', hpieces', hwidened⟩ := (statements_iff_splits.mp hpieces).widen hd hr hx
    refine ⟨pieces', ?_, hwidened.map_dropBlankRows hg hx⟩
    rw [List.append_assoc]
    exact statements_iff_splits.mpr hpieces'

/-- Spaces and tabs behind the last line break. -/
theorem of_isSpaces {w : Text} (hw : IsSpaces w) (x : Text) :
    SameRows (x ++ ['\n']) (x ++ '\n' :: w) := by
  intro pieces hpieces
  have hjoin := join_statements hpieces
  obtain ⟨before, p, rfl⟩ := exists_last_of_newline hjoin
  obtain ⟨ts, hts, hcut⟩ := statements_eq_singleton_iff.mp
    (statements_of_mem hpieces (List.mem_append_right _ (List.mem_singleton_self _)))
  have hsingle : statements (p ++ '\n' :: w) = .ok [p ++ '\n' :: w] := by
    refine statements_eq_singleton_iff.mpr ⟨ts ++ [], ?_, by rwa [List.append_nil]⟩
    exact (hts.leave_end (by decide)).newline (hasTokens_of_isSpaces hw)
  have hreplaced := statements_replace hpieces (List.cons_ne_nil _ _)
    (List.forall_mem_singleton.mpr hsingle) (List.forall_mem_nil _) (absurd rfl)
  have htext : Text.join [';'] (before ++ [p ++ '\n' :: w]) = x ++ '\n' :: w := by
    rw [List.append_cons p, Text.join_concat_append, hjoin, ← List.append_cons]
  rw [List.append_nil, htext] at hreplaced
  refine ⟨_, hreplaced, ?_⟩
  rw [List.map_append, List.map_append, List.map_singleton, List.map_singleton,
    hw.dropBlankRows]

/-- The layout of a text without carriage returns. -/
theorem of_relaid {t t' : Text} (h : Relaid t t') (ht : '\r' ∉ t) (hx : x.getLast? ≠ some '\r') :
    SameRows (x ++ t) (x ++ t') := by
  induction h generalizing x with
  | nil => exact refl _
  | @keep c t t' hc _ ih =>
    simp only [List.mem_cons, not_or] at ht
    rw [List.append_cons, List.append_cons x c t']
    refine ih ht.2 ?_
    rw [List.getLast?_concat]
    exact fun h => ht.1 (Option.some.inj h).symm
  | @spaced g t t' hg _ ih =>
    have hlast : (x ++ g).getLast? ≠ some '\r' := by
      obtain ⟨v, rfl⟩ := exists_concat_of_isSpacing hg
      rw [← List.append_assoc, List.getLast?_concat]
      decide
    refine (of_isSpacing hg hx t).trans ?_
    rw [← List.append_assoc, ← List.append_assoc]
    exact ih (fun h => ht (List.mem_cons_of_mem _ h)) hlast
  | @last g w hg hw =>
    refine (of_isSpacing hg hx []).trans ?_
    obtain ⟨v, rfl⟩ := exists_concat_of_isSpacing hg
    have hspaces := of_isSpaces hw (x ++ v)
    simpa using hspaces

end SameRows

end Sql

/-! ## Runs -/

/-- Only the rows of a statement that are kept are read. -/
theorem Schema.ofStatements_congr {pieces pieces' : List Text}
    (h : pieces'.map Text.dropBlankRows = pieces.map Text.dropBlankRows) :
    ofStatements pieces' = ofStatements pieces := by
  induction pieces generalizing pieces' with
  | nil => rw [List.map_eq_nil_iff.mp h]
  | cons s pieces ih =>
    obtain ⟨s', pieces', rfl, hs, hrest⟩ := List.map_eq_cons_iff.mp h
    rw [ofStatements, ofStatements, hs, ih hrest]

namespace Config

section Running

variable [Template.Engine]

theorem run_eq_of_read (c : Config) {sql sql' : Text} (h : Schema.read sql' = Schema.read sql)
    (m : Type → Type) [Monad m] [FileAccess m] [FormatAccess m] :
    (c.run sql' : ExceptT ScaffoldError m Report) = c.run sql := by
  unfold run
  rw [h]

/-- A run that succeeds on a schema without carriage returns does the same on the schema in
another layout. -/
theorem run_of_relaid [GoFormatter] (c : Config) {sql sql' : Text} {w w' : Workspace}
    {report : Report}
    (hreturn : '\r' ∉ sql) (hrelaid : Text.Relaid sql sql')
    (h : exec (c.run sql : Procedure Workspace Report) w = (.ok report, w')) :
    exec (c.run sql' : Procedure Workspace Report) w = (.ok report, w')
      ∧ ∀ (m : Type → Type) [Monad m] [FileAccess m] [FormatAccess m],
        (c.run sql' : ExceptT ScaffoldError m Report) = c.run sql := by
  obtain ⟨hfailure, -⟩ := exists_produces_of_run h
  obtain ⟨pieces, hpieces, hread⟩ := Schema.read_eq_of_failure hfailure
  obtain ⟨pieces', hpieces', hrows⟩ :=
    Sql.SameRows.of_relaid (x := []) hrelaid hreturn (by decide) pieces hpieces
  have hsame : Schema.read sql' = Schema.read sql := by
    rw [List.nil_append] at hpieces'
    rw [hread, Schema.read_of_statements hpieces', Schema.ofStatements_congr hrows]
  refine ⟨?_, c.run_eq_of_read hsame⟩
  rw [c.run_eq_of_read hsame, h]

end Running

end Config

namespace Sample

/-- The rows of a schema with line breaks within a comment, a string and an expression. -/
def brokenRows : List Text :=
  ["/* ; ".toList, "*/ CREATE TABLE IF NOT EXISTS a (a text DEFAULT (f('x".toList,
    "y;',".toList, "2)), -- (".toList, "b int);".toList, "CREATE TABLE IF NOT EXISTS b ()".toList, []]

/-- A line break with rows of a space and of a tab behind it. -/
def wideBreak : Text := ['\r', '\n'] ++ ([' '] ++ ['\r', '\n']) ++ (['\t'] ++ ['\n'])

theorem isSpacing_wideBreak : Text.IsSpacing wideBreak := by
  have hspace : Text.IsSpaces [' '] := List.forall_mem_singleton.mpr (.inl rfl)
  have htab : Text.IsSpaces ['\t'] := List.forall_mem_singleton.mpr (.inr rfl)
  exact .row (.row (.first (by decide)) hspace (by decide)) htab (by decide)

theorem run_brokenRows :
    exec (config.run (Text.join ['\n'] brokenRows) : Procedure Workspace Report) workspace
      = (.ok report, generated) := by
  decide +kernel

end Sample

theorem Config.run_of_relaid_wide :
    '\r' ∉ Text.join ['\n'] Sample.brokenRows
      ∧ Text.Relaid (Text.join ['\n'] Sample.brokenRows) (Text.join Sample.wideBreak Sample.brokenRows)
      ∧ exec (Sample.config.run (Text.join Sample.wideBreak Sample.brokenRows)
          : Procedure Workspace Report) Sample.workspace
        = (.ok Sample.report, Sample.generated) := by
  have hreturn : '\r' ∉ Text.join ['\n'] Sample.brokenRows := by decide
  have hrelaid : Text.Relaid (Text.join ['\n'] Sample.brokenRows)
      (Text.join Sample.wideBreak Sample.brokenRows) :=
    .join Sample.isSpacing_wideBreak (by decide)
  exact ⟨hreturn, hrelaid, (run_of_relaid Sample.config hreturn hrelaid Sample.run_brokenRows).1⟩

end TableScaffold
