import TableScaffold.Proofs.Files.Component
import TableScaffold.Proofs.Generation.Overlap

set_option autoImplicit false

/-!
# Files in their directory

The file of a table is in the directory of its kind exactly if what stands in front of the
last slash of its name leads nowhere (`liesIn_artifactPath`); a name without a slash always
does.  As long as no name leads elsewhere, a run changes nothing outside the directories of
the kinds but its combined files and new directories (`artifacts_of_run`).
-/

namespace TableScaffold

open Procedure Workspace

namespace ArtifactKind

theorem slash_not_mem_extension (k : ArtifactKind) : '/' ∉ '.' :: k.extension := by
  cases k <;> decide

theorem lead_fileOf (k : ArtifactKind) (table : Text) :
    Path.lead (k.fileOf table) = Path.lead table :=
  Path.lead_append table k.slash_not_mem_extension

theorem base_fileOf (k : ArtifactKind) (table : Text) :
    Path.base (k.fileOf table) = k.fileOf (Path.base table) :=
  Path.base_append table k.slash_not_mem_extension

end ArtifactKind

namespace Config

variable {c : Config}

/-- The file of a table is a file without a slash in the directory that the rest of the
name leads to. -/
theorem artifactPath_eq_join (c : Config) (k : ArtifactKind) (table : Text) :
    c.artifactPath k table
      = Path.join (Path.join (c.artifactDir k) (Path.lead table)) (k.fileOf (Path.base table)) := by
  have hjoin := Path.join_eq_join_lead (c.artifactDir k) (k.fileOf table)
  rw [k.lead_fileOf, k.base_fileOf] at hjoin
  exact hjoin

theorem isName_fileOf_base (k : ArtifactKind) (table : Text) :
    Path.IsName (k.fileOf (Path.base table)) :=
  k.isName_fileOf (Path.not_mem_base table)

theorem components_artifactPath_base (c : Config) (k : ArtifactKind) (table : Text) :
    Path.components (c.artifactPath k table)
      = Path.components (Path.join (c.artifactDir k) (Path.lead table))
        ++ [.name (k.fileOf (Path.base table))] := by
  rw [artifactPath_eq_join, Path.components_join _ (isName_fileOf_base k table)]

/-- The place of a file of a table is one step below the place of the directory that the
name leads to. -/
theorem exists_resolve_artifactPath {w : Workspace} {place : Place} {k : ArtifactKind}
    {table : Text} (h : w.resolve (c.artifactPath k table) = .ok place) :
    ∃ d, w.resolveInto (Path.join (c.artifactDir k) (Path.lead table)) = .ok d
      ∧ place = d ++ [k.fileOf (Path.base table)] := by
  rw [artifactPath_eq_join, resolve_join_eq_ok (isName_fileOf_base k table)] at h
  obtain ⟨-, -, d, hd, -, hplace⟩ := h
  exact ⟨d, hd, hplace⟩

theorem liesIn_artifactPath {k : ArtifactKind} {table : Text} :
    Path.LiesIn (c.artifactDir k) (c.artifactPath k table)
      ↔ Path.LeadsNowhere (c.artifactDir k) (Path.lead table) := by
  rw [← Path.components_join_eq_self, Path.LiesIn, components_artifactPath_base]
  constructor
  · rintro ⟨name, -, heq⟩
    exact (List.append_singleton_inj.mp heq).1
  · intro heq
    exact ⟨_, isName_fileOf_base k table, by rw [heq]⟩

/-- A place that a run may write to if all its files are in their directories: that of a
combined file, or one in the directory of a kind. -/
def IsOwnPlace (c : Config) (w : Workspace) (place : Place) : Prop :=
  ∃ k ∈ c.enabledKinds, w.resolve (c.combinedPath k) = .ok place
    ∨ ∃ d name, Path.IsName name ∧ w.resolveInto (c.artifactDir k) = .ok d ∧ place = d ++ [name]

theorem isOwnPlace_of_resolve {w : Workspace} {place : Place} {k : ArtifactKind} {table : Text}
    (hk : k ∈ c.enabledKinds) (hlead : Path.LeadsNowhere (c.artifactDir k) (Path.lead table))
    (hplace : w.resolve (c.artifactPath k table) = .ok place) : c.IsOwnPlace w place := by
  obtain ⟨name, hname, hcomponents⟩ := liesIn_artifactPath.mpr hlead
  obtain ⟨d, hd, heq⟩ := exists_resolveInto hname hcomponents hplace
  exact ⟨k, hk, .inr ⟨d, name, hname, hd, heq⟩⟩

/-- The report of a run lists the file of every table for every kind, and then the combined
files.  A file of a table is in the directory of its kind, as one more name, exactly if the
table's name leads nowhere else; it is written in the directory that the table's name leads
to.  Where no name leads elsewhere, nothing changes outside the directories of the kinds but
combined files and new directories. -/
theorem artifacts_of_run [Template.Engine] [GoFormatter] {sql : Text} {report : Report}
    {w w' : Workspace}
    (h : exec (c.run sql : Procedure Workspace Report) w = (.ok report, w')) :
    report.files = c.tablePaths report.tables ++ c.enabledKinds.map c.combinedPath
      ∧ (∀ table ∈ report.tables, ∀ k ∈ c.enabledKinds,
        Path.LiesIn (c.artifactDir k) (c.artifactPath k table)
          ↔ Path.LeadsNowhere (c.artifactDir k) (Path.lead table))
      ∧ (c.dryRun = false →
        (∀ table ∈ report.tables, ∀ k ∈ c.enabledKinds, ∃ d,
          w'.resolveInto (Path.join (c.artifactDir k) (Path.lead table)) = .ok d
            ∧ w'.resolve (c.artifactPath k table) = .ok (d ++ [k.fileOf (Path.base table)]))
        ∧ ((∀ table ∈ report.tables, ∀ k ∈ c.enabledKinds,
            Path.LeadsNowhere (c.artifactDir k) (Path.lead table)) →
          Extends (c.IsOwnPlace w') w w')) := by
  refine ⟨files_eq_of_run h, fun table _ k _ => liesIn_artifactPath, fun hdry => ⟨?_, ?_⟩⟩
  · intro table htable k hk
    obtain ⟨place, hplace⟩ := exists_resolve_of_run hdry h (artifactPath_mem_files h htable hk)
    obtain ⟨d, hd, rfl⟩ := exists_resolve_artifactPath hplace
    exact ⟨d, hd, hplace⟩
  · intro hlead
    obtain ⟨plan, -, -, hreport, hwrote⟩ := wroteAll_of_run hdry h
    refine hwrote.others.mono ?_
    rintro place ⟨o, ho, hplace⟩
    have hpath : o.path ∈ report.files := by
      rw [hreport]
      exact List.mem_map_of_mem ho
    rw [files_eq_of_run h, List.mem_append] at hpath
    rcases hpath with htable | hcombined
    · obtain ⟨table, htable, hpath⟩ := List.mem_flatMap.mp htable
      obtain ⟨k, hk, hpath⟩ := List.mem_map.mp hpath
      rw [← hpath] at hplace
      exact isOwnPlace_of_resolve hk (hlead table htable k hk) hplace
    · obtain ⟨k, hk, hpath⟩ := List.mem_map.mp hcombined
      rw [← hpath] at hplace
      exact ⟨k, hk, .inl hplace⟩

end Config

/-! ## Names with slashes -/

namespace Sample

/-- The second name has a slash, but leads nowhere. -/
def slashed : Text := "CREATE TABLE IF NOT EXISTS a (); CREATE TABLE IF NOT EXISTS \"./b\" ()".toList

def slashedReport : Report where
  tables := ["a".toList, "./b".toList]
  files := ["o/handlers/a.go".toList, "o/handlers/./b.go".toList, "o/handlers/api.go".toList]

theorem run_slashed : exec (config.run slashed : Procedure Workspace Report) workspace
    = (.ok slashedReport, generated) := by
  decide +kernel

/-- A name that leads from the directory of its kind back to where the run started. -/
def climbing : Text := "CREATE TABLE IF NOT EXISTS \"../../b\" ()".toList

def climbingReport : Report where
  tables := ["../../b".toList]
  files := ["o/handlers/../../b.go".toList, "o/handlers/api.go".toList]

/-- The workspace with a file of a table outside the output directory. -/
def climbed : Workspace where
  entries := workspace.entries ++
    [(["o".toList], .directory),
      (["o".toList, "handlers".toList], .directory),
      (["b.go".toList], .file "file".toUTF8),
      (["o".toList, "handlers".toList, "api.go".toList], .file "row\n".toUTF8)]

theorem run_climbing : exec (config.run climbing : Procedure Workspace Report) workspace
    = (.ok climbingReport, climbed) := by
  decide +kernel

end Sample

namespace Config

theorem artifacts_of_run_slashed :
    Path.LiesIn (Sample.config.artifactDir .handler)
        (Sample.config.artifactPath .handler "./b".toList)
      ∧ Extends (Sample.config.IsOwnPlace Sample.generated) Sample.workspace Sample.generated := by
  obtain ⟨-, hlies, hplaces⟩ := artifacts_of_run Sample.run_slashed
  refine ⟨(hlies _ ?_ _ ?_).mpr ?_, (hplaces rfl).2 ?_⟩
  · decide
  · decide
  · decide
  · decide

/-- The name of a table may lead its files out of the directories of the kinds. -/
theorem not_liesIn_of_run :
    ¬ ∀ (c : Config) (sql : Text) (report : Report) (w w' : Workspace),
      exec (c.run sql : Procedure Workspace Report) w = (.ok report, w')
        → ∀ table ∈ report.tables, ∀ k ∈ c.enabledKinds,
          Path.LiesIn (c.artifactDir k) (c.artifactPath k table) := by
  intro h
  have hlies := h _ _ _ _ _ Sample.run_climbing "../../b".toList (by decide) .handler (by decide)
  exact absurd (liesIn_artifactPath.mp hlies) (by decide)

end Config

end TableScaffold
