import TableScaffold.Proofs.Generation.Confinement
import TableScaffold.Proofs.Generation.Success

set_option autoImplicit false

/-!
# Combined files and files of tables

A combined file is what the file of a certain table would be (`combinedPath_eq`).  So a
table whose file is the combined file of another kind has the file of that kind as well,
and refusing it for each kind by itself protects the combined files of all kinds
(`not_same_combinedPath`).  On disk the two kinds of files are at different places too,
unless the name of the message package has a slash (`proto_of_resolve_combinedPath`).
-/

namespace TableScaffold

open Procedure Workspace

namespace ArtifactKind

/-- The table whose file the combined file of a kind would be. -/
def combinedTable (protoPackage : Text) : ArtifactKind → Text
  | proto => protoPackage
  | handler => "api".toList
  | service => "services".toList
  | repository => "storage".toList

theorem combinedFile_eq_fileOf (protoPackage : Text) (k : ArtifactKind) :
    k.combinedFile protoPackage = k.fileOf (k.combinedTable protoPackage) := by
  cases k <;> rfl

theorem eq_proto_of_mem_combinedTable {protoPackage : Text} {k : ArtifactKind}
    (h : '/' ∈ k.combinedTable protoPackage) : k = .proto ∧ '/' ∈ protoPackage := by
  cases k with
  | proto => exact ⟨rfl, h⟩
  | handler => exact absurd h (show '/' ∉ "api".toList by decide)
  | service => exact absurd h (show '/' ∉ "services".toList by decide)
  | repository => exact absurd h (show '/' ∉ "storage".toList by decide)

theorem eq_proto_of_extension_eq {k : ArtifactKind} (h : k.extension = proto.extension) :
    k = .proto := by
  cases k with
  | proto => rfl
  | handler => exact absurd h (by decide)
  | service => exact absurd h (by decide)
  | repository => exact absurd h (by decide)

end ArtifactKind

namespace Config

variable {c : Config} {table : Text} {k k' : ArtifactKind}

theorem combinedPath_eq (c : Config) (k : ArtifactKind) :
    c.combinedPath k = c.artifactPath k (k.combinedTable c.protoPackage) := by
  rw [combinedPath, combinedFile, k.combinedFile_eq_fileOf]
  rfl

theorem not_same_of_collidingKind? (h : c.collidingKind? table = none) (hk : k ∈ c.enabledKinds) :
    ¬ Path.same (c.artifactPath k table) (c.combinedPath k) := by
  unfold collidingKind? at h
  exact List.find?_eq_none.mp h k hk

/-- A table that no kind refuses does not have the name of a combined file. -/
theorem ne_combinedTable (h : c.collidingKind? table = none) (hk : k ∈ c.enabledKinds) :
    table ≠ k.combinedTable c.protoPackage := by
  rintro rfl
  refine not_same_of_collidingKind? h hk ?_
  rw [combinedPath_eq]
  exact decide_eq_true rfl

/-- A table that no kind refuses has no path of a combined file, for any two kinds. -/
theorem not_same_combinedPath (hslash : '/' ∉ table) (h : c.collidingKind? table = none)
    (hk : k ∈ c.enabledKinds) (hk' : k' ∈ c.enabledKinds) :
    ¬ Path.same (c.artifactPath k table) (c.combinedPath k') := by
  intro hsame
  by_cases hcombined : '/' ∈ k'.combinedTable c.protoPackage
  · -- the kinds are equal, for no other kind has files with the same extension
    obtain ⟨rfl, -⟩ := ArtifactKind.eq_proto_of_mem_combinedTable hcombined
    have hfile : k.fileOf (Path.base table)
        = ArtifactKind.proto.fileOf (Path.base (ArtifactKind.proto.combinedTable c.protoPackage)) := by
      have hcomponents := of_decide_eq_true hsame
      rw [combinedPath_eq, components_artifactPath_base, components_artifactPath_base] at hcomponents
      simpa using (List.append_singleton_inj.mp hcomponents).2
    obtain rfl := ArtifactKind.eq_proto_of_extension_eq (ArtifactKind.fileOf_inj.mp hfile).2
    exact not_same_of_collidingKind? h hk hsame
  · -- the directories are equal, so the second kind refuses the table
    rw [combinedPath_eq] at hsame
    exact ne_combinedTable h hk' ((same_artifactPath hslash hcombined).mp hsame).1

/-- The file of a table that no kind refuses leads to the place of a combined file only
among the messages, and only if the name of their package has a slash. -/
theorem proto_of_resolve_combinedPath {w : Workspace} {place : Place} (hslash : '/' ∉ table)
    (h : c.collidingKind? table = none) (hk' : k' ∈ c.enabledKinds)
    (hplace : w.resolve (c.artifactPath k table) = .ok place)
    (hplace' : w.resolve (c.combinedPath k') = .ok place) :
    k = .proto ∧ k' = .proto ∧ '/' ∈ c.protoPackage := by
  rw [combinedPath_eq] at hplace'
  by_cases hcombined : '/' ∈ k'.combinedTable c.protoPackage
  · obtain ⟨rfl, hpackage⟩ := ArtifactKind.eq_proto_of_mem_combinedTable hcombined
    obtain ⟨d, -, hd⟩ := exists_resolve_artifactPath hplace
    obtain ⟨d', -, hd'⟩ := exists_resolve_artifactPath hplace'
    have hfile := (List.append_singleton_inj.mp (hd.symm.trans hd')).2
    exact ⟨ArtifactKind.eq_proto_of_extension_eq (ArtifactKind.fileOf_inj.mp hfile).2, rfl, hpackage⟩
  · have hequal := (resolve_artifactPath_eq hslash hcombined hplace hplace').mp
      (hplace.trans hplace'.symm)
    exact absurd hequal.1 (ne_combinedTable h hk')

/-- A table without a slash in its name that is not refused has the path of no combined
file, whatever directories the kinds share.  So in a run over such tables the combined
files and the files of tables have different paths; and they are at different places,
but for those of the messages if the name of the package has a slash. -/
theorem combined_protected [Template.Engine] [GoFormatter] (c : Config) :
    (∀ (table : Text) (w w' : Workspace), '/' ∉ table →
      exec (c.checkCollision table : Procedure Workspace Unit) w = (.ok (), w') →
      ∀ k ∈ c.enabledKinds, ∀ k' ∈ c.enabledKinds,
        ¬ Path.same (c.artifactPath k table) (c.combinedPath k'))
    ∧ ∀ (sql : Text) (report : Report) (w w' : Workspace),
      exec (c.run sql : Procedure Workspace Report) w = (.ok report, w') →
      (∀ table ∈ report.tables, '/' ∉ table) →
      (∀ p ∈ c.tablePaths report.tables, ∀ q ∈ c.enabledKinds.map c.combinedPath, ¬ Path.same p q)
      ∧ (c.dryRun = false →
        ∀ table ∈ report.tables, ∀ k ∈ c.enabledKinds, ∀ k' ∈ c.enabledKinds,
          w'.resolve (c.artifactPath k table) = w'.resolve (c.combinedPath k') →
          k = .proto ∧ k' = .proto ∧ '/' ∈ c.protoPackage) := by
  constructor
  · intro table w w' hslash hcheck k hk k' hk'
    exact not_same_combinedPath hslash (exec_checkCollision_eq_ok hcheck).1 hk hk'
  · intro sql report w w' h hslash
    constructor
    · intro p hp q hq
      obtain ⟨table, htable, hp⟩ := List.mem_flatMap.mp hp
      obtain ⟨k, hk, rfl⟩ := List.mem_map.mp hp
      obtain ⟨k', hk', rfl⟩ := List.mem_map.mp hq
      exact not_same_combinedPath (hslash table htable) (collidingKind?_of_run h htable) hk hk'
    · intro hdry table htable k hk k' hk' hsame
      obtain ⟨place, hplace⟩ := exists_resolve_of_run hdry h (artifactPath_mem_files h htable hk)
      exact proto_of_resolve_combinedPath (hslash table htable) (collidingKind?_of_run h htable) hk'
        hplace (hsame.symm.trans hplace)

end Config

/-! ## A package with a slash in its name -/

namespace Sample

/-- Messages whose package leads to the file of the table `a`. -/
def aliased : Config :=
  { config with
    enabled := .ofFunction (· = .proto)
    protoPackage := "../protos/a".toList }

/-- A directory with short templates for messages. -/
def messageTemplates : Workspace where
  entries :=
    [(["t".toList], .directory),
      (["t".toList, "proto.tmpl".toList], .file "file".toUTF8),
      (["t".toList, "proto_aggregate.tmpl".toList], .file "row".toUTF8)]

def aliasedReport : Report where
  tables := ["a".toList]
  files := ["o/protos/a.proto".toList, "o/protos/../protos/a.proto".toList]

/-- What is left of the file of the table is the combined file. -/
def aliasedGenerated : Workspace where
  entries := messageTemplates.entries ++
    [(["o".toList], .directory),
      (["o".toList, "protos".toList], .directory),
      (["o".toList, "protos".toList, "a.proto".toList], .file "row\n".toUTF8)]

theorem run_aliased : exec (aliased.run oneTable : Procedure Workspace Report) messageTemplates
    = (.ok aliasedReport, aliasedGenerated) := by
  decide +kernel

end Sample

namespace Config

theorem combined_protected_sharing :
    ¬ Path.same (Sample.sharing.artifactPath .handler "a".toList)
        (Sample.sharing.combinedPath .service)
      ∧ Sample.sharingGenerated.resolve (Sample.sharing.artifactPath .handler "a".toList)
        ≠ Sample.sharingGenerated.resolve (Sample.sharing.combinedPath .service) := by
  obtain ⟨hpaths, hplaces⟩ := combined_protected Sample.sharing
  constructor
  · have hcheck : exec (Sample.sharing.checkCollision "a".toList : Procedure Workspace Unit) {}
        = (.ok (), {}) := by
      decide
    exact hpaths _ _ _ (by decide) hcheck _ (by decide) _ (by decide)
  · intro hsame
    obtain ⟨-, hfiles⟩ := hplaces _ _ _ _ Sample.run_sharing (by decide)
    obtain ⟨hproto, -⟩ := hfiles rfl _ (by decide) .handler (by decide) .service (by decide) hsame
    contradiction

/-- A combined file may replace the file of a table that is not refused. -/
theorem not_combined_protected :
    ¬ ∀ (c : Config) (sql : Text) (report : Report) (w w' : Workspace),
      exec (c.run sql : Procedure Workspace Report) w = (.ok report, w') →
      (∀ table ∈ report.tables, '/' ∉ table) → c.dryRun = false →
      ∀ table ∈ report.tables, ∀ k ∈ c.enabledKinds, ∀ k' ∈ c.enabledKinds,
        w'.resolve (c.artifactPath k table) ≠ w'.resolve (c.combinedPath k') := by
  intro h
  have hplaces := h _ _ _ _ _ Sample.run_aliased (by decide) rfl "a".toList (by decide) .proto
    (by decide) .proto (by decide)
  exact hplaces (by decide)

end Config

end TableScaffold
