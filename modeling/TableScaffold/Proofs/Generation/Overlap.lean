import TableScaffold.Config.Validation
import TableScaffold.Proofs.Generation.Refinement

set_option autoImplicit false

/-!
# Files of a run that replace one another

Two files of tables have the same path exactly if their tables have the same name and
their kinds share an extension and a directory (`same_artifactPath`), and a file
holds what the run wrote last where its path leads (`tablePaths_of_run`).
-/

namespace TableScaffold

open Procedure Workspace

/-! ## Paths of two tables -/

namespace ArtifactKind

/-- The name of the file of a table. -/
def fileOf (k : ArtifactKind) (table : Text) : Text := table ++ '.' :: k.extension

theorem isName_fileOf {table : Text} (k : ArtifactKind) (h : '/' ∉ table) :
    Path.IsName (k.fileOf table) := by
  obtain ⟨front, hfront⟩ := List.getLast?_eq_some_iff.mp k.getLast?_extension
  refine Path.isName_of_getLast? (c := 'o') ?_ (by decide) ?_
  · rw [fileOf, hfront, ← List.cons_append, ← List.append_assoc, List.getLast?_concat]
  · have hextension : '/' ∉ '.' :: k.extension := by cases k <;> decide
    exact fun hmem => (List.mem_append.mp hmem).elim h hextension

theorem extension_eq (k : ArtifactKind) :
    k.extension = ['g', 'o'] ∨ k.extension = ['p', 'r', 'o', 't', 'o'] := by
  cases k <;> decide

/-- The name of a file tells the table and the extension. -/
theorem fileOf_inj {k k' : ArtifactKind} {table table' : Text} :
    k.fileOf table = k'.fileOf table' ↔ table = table' ∧ k.extension = k'.extension := by
  unfold fileOf
  constructor
  · intro h
    -- from the back, the extensions differ in the second character or not at all
    have hreverse : k.extension.reverse ++ '.' :: table.reverse
        = k'.extension.reverse ++ '.' :: table'.reverse := by
      simpa only [List.reverse_append, List.reverse_cons, List.append_assoc,
        List.singleton_append] using congrArg List.reverse h
    rcases k.extension_eq with hk | hk <;> rcases k'.extension_eq with hk' | hk' <;>
      rw [hk, hk'] at hreverse ⊢ <;> simp at hreverse ⊢ <;> exact hreverse
  · rintro ⟨rfl, hext⟩
    rw [hext]

end ArtifactKind

namespace Config

variable {c : Config} {k k' : ArtifactKind} {table table' : Text}

/-- The file of a table lies in the directory of its kind. -/
theorem components_artifactPath (c : Config) (k : ArtifactKind) (h : '/' ∉ table) :
    Path.components (c.artifactPath k table)
      = Path.components (c.artifactDir k) ++ [.name (k.fileOf table)] :=
  Path.components_join (c.artifactDir k) (k.isName_fileOf h)

/-- Two kinds whose files of one table have the same path. -/
def SharePaths (c : Config) (k k' : ArtifactKind) : Prop :=
  k.extension = k'.extension ∧ Path.same (c.artifactDir k) (c.artifactDir k')

instance (c : Config) (k k' : ArtifactKind) : Decidable (c.SharePaths k k') :=
  inferInstanceAs (Decidable (_ ∧ _))

theorem same_artifactPath (h : '/' ∉ table) (h' : '/' ∉ table') :
    Path.same (c.artifactPath k table) (c.artifactPath k' table')
      ↔ table = table' ∧ c.SharePaths k k' := by
  unfold SharePaths Path.same
  rw [components_artifactPath c k h, components_artifactPath c k' h', decide_eq_true_eq,
    decide_eq_true_eq, List.append_singleton_inj, Path.Component.name.injEq,
    ArtifactKind.fileOf_inj, and_comm, and_assoc]

/-- The paths of the files of some tables. -/
def tablePaths (c : Config) (tables : List Text) : List Path :=
  tables.flatMap fun table => c.enabledKinds.map fun k => c.artifactPath k table

/-- Nothing makes two of the files share their path: no table occurs twice, and no two
kinds share paths. -/
def TablesApart (c : Config) (tables : List Text) : Prop :=
  (tables = [] ∨ c.enabledKinds.Pairwise fun k k' => ¬ c.SharePaths k k')
    ∧ (c.enabledKinds = [] ∨ tables.Nodup)

instance (c : Config) (tables : List Text) : Decidable (c.TablesApart tables) :=
  inferInstanceAs (Decidable (_ ∧ _))

theorem pairwise_tablePaths {tables : List Text} (h : ∀ table ∈ tables, '/' ∉ table) :
    (c.tablePaths tables).Pairwise (fun p q => ¬ Path.same p q) ↔ c.TablesApart tables := by
  unfold tablePaths TablesApart
  simp only [List.pairwise_flatMap, List.pairwise_map, List.forall_mem_map]
  constructor
  · rintro ⟨hone, htwo⟩
    constructor
    · cases tables with
      | nil => exact .inl rfl
      | cons table tables =>
        have htable := h table List.mem_cons_self
        refine .inr ((hone table List.mem_cons_self).imp fun hne hshare => hne ?_)
        exact (same_artifactPath htable htable).mpr ⟨rfl, hshare⟩
    · cases hkinds : c.enabledKinds with
      | nil => exact .inl rfl
      | cons k ks =>
        have hk : k ∈ c.enabledKinds := hkinds ▸ List.mem_cons_self
        refine .inr (htwo.imp fun {table table'} hne heq => hne k hk k hk ?_)
        rw [heq]
        exact decide_eq_true rfl
  · rintro ⟨hkinds, hnames⟩
    constructor
    · intro table htable
      have hks := hkinds.resolve_left (List.ne_nil_of_mem htable)
      refine hks.imp fun hne hsame => hne ?_
      exact ((same_artifactPath (h table htable) (h table htable)).mp hsame).2
    · rcases hnames with hempty | hnames
      · rw [hempty]
        exact List.pairwise_of_forall fun _ _ _ hk => nomatch hk
      · refine hnames.imp_of_mem fun htable htable' hne k _ k' _ hsame => hne ?_
        exact ((same_artifactPath (h _ htable) (h _ htable')).mp hsame).1

-- a slash in a name may lead anywhere
example : (Config.forSchema []).TablesApart ["a".toList, "./a".toList]
    ∧ Path.same ((Config.forSchema []).artifactPath .proto "a".toList)
      ((Config.forSchema []).artifactPath .proto "./a".toList) := by
  decide

/-- Two files of tables are at the same place exactly if they have the same name, and
the directories of their kinds are at the same place. -/
theorem resolve_artifactPath_eq {w : Workspace} {place place' : Place} (h : '/' ∉ table)
    (h' : '/' ∉ table') (hplace : w.resolve (c.artifactPath k table) = .ok place)
    (hplace' : w.resolve (c.artifactPath k' table') = .ok place') :
    w.resolve (c.artifactPath k table) = w.resolve (c.artifactPath k' table')
      ↔ table = table' ∧ k.extension = k'.extension
        ∧ w.resolveInto (c.artifactDir k) = w.resolveInto (c.artifactDir k') := by
  obtain ⟨-, -, d, hd, -, rfl⟩ := (resolve_join_eq_ok (k.isName_fileOf h)).mp hplace
  obtain ⟨-, -, d', hd', -, rfl⟩ := (resolve_join_eq_ok (k'.isName_fileOf h')).mp hplace'
  rw [hplace, hplace', hd, hd', Except.ok.injEq, Except.ok.injEq, List.append_singleton_inj,
    ArtifactKind.fileOf_inj, and_comm, and_assoc]

end Config

/-! ## The last write to a place -/

theorem exists_last {α : Type} {p : α → Prop} {as : List α} (h : ∃ a ∈ as, p a) :
    ∃ front last rest, as = front ++ last :: rest ∧ p last ∧ ∀ b ∈ rest, ¬ p b := by
  induction as with
  | nil => exact absurd h (by simp)
  | cons a as ih =>
    by_cases hlater : ∃ b ∈ as, p b
    · obtain ⟨front, last, rest, heq, hlast, hrest⟩ := ih hlater
      exact ⟨a :: front, last, rest, by rw [heq, List.cons_append], hlast, hrest⟩
    · obtain ⟨b, hb, hpb⟩ := h
      cases hb with
      | head => exact ⟨[], a, as, rfl, hpb, fun b hb hpb => hlater ⟨b, hb, hpb⟩⟩
      | tail _ hb => exact absurd ⟨b, hb, hpb⟩ hlater

/-- Every output has a file, which holds what the last output leaves whose path leads to the
same place: its text, or what the formatter makes of it. -/
def Workspace.HoldsLast [GoFormatter] (w : Workspace) (os : List Output) : Prop :=
  ∀ before o after, os = before ++ o :: after →
    ∃ front last rest, o :: after = front ++ last :: rest
      ∧ w.resolve last.path = w.resolve o.path
      ∧ (∀ later ∈ rest, w.resolve later.path ≠ w.resolve o.path)
      ∧ w.readBytes o.path = .ok last.bytes

theorem Workspace.WroteAll.holdsLast [GoFormatter] {os : List Output} {w w' : Workspace}
    (h : WroteAll os w w') : w'.HoldsLast os := by
  rintro before o after rfl
  obtain ⟨front, last, rest, heq, hlast, hrest⟩ :=
    exists_last (p := fun o' : Output => w'.resolve o'.path = w'.resolve o.path)
      ⟨o, List.mem_cons_self, rfl⟩
  refine ⟨front, last, rest, heq, hlast, hrest, ?_⟩
  rw [heq, ← List.append_assoc] at h
  rw [← h.readBytes fun later hlater => by rw [hlast]; exact hrest later hlater]
  unfold Workspace.readBytes
  rw [hlast]

/-! ## Files of a run -/

namespace Config

variable {c : Config}

theorem files_report (c : Config) (tables : List Table) : (c.report tables).files
    = c.tablePaths (c.report tables).tables ++ c.enabledKinds.map c.combinedPath := by
  unfold report tablePaths
  rw [List.flatMap_map]

theorem report_of_run {σ : Type} [FileAccess (StateM σ)] [FormatAccess (StateM σ)]
    [Template.Engine] {sql : Text} {report : Report} {s s' : σ}
    (h : exec (c.run sql : Procedure σ Report) s = (.ok report, s')) :
    report = c.report (c.selected (Schema.read sql)) := by
  rw [run_eq_emit] at h
  unfold emit at h
  obtain ⟨bs, s₁, -, h⟩ := exec_bind_eq_ok.mp h
  cases hfailure : (Schema.read sql).failure with
  | some e =>
    rw [hfailure] at h
    cases h
  | none =>
    rw [hfailure] at h
    obtain ⟨_, s₂, -, hreport⟩ := exec_bind_eq_ok.mp h
    cases hreport
    rfl

section Files

variable {σ : Type} [FileAccess (StateM σ)] [FormatAccess (StateM σ)] [Template.Engine]
variable {sql : Text} {report : Report} {s s' : σ}

theorem files_eq_of_run (h : exec (c.run sql : Procedure σ Report) s = (.ok report, s')) :
    report.files = c.tablePaths report.tables ++ c.enabledKinds.map c.combinedPath := by
  rw [report_of_run h, files_report]

theorem artifactPath_mem_files (h : exec (c.run sql : Procedure σ Report) s = (.ok report, s'))
    {table : Text} (htable : table ∈ report.tables) {k : ArtifactKind} (hk : k ∈ c.enabledKinds) :
    c.artifactPath k table ∈ report.files := by
  rw [files_eq_of_run h]
  exact List.mem_append_left _ (List.mem_flatMap_of_mem htable (List.mem_map_of_mem hk))

end Files

/-- A path that a run has written leads to a place. -/
theorem exists_resolve_of_run [Template.Engine] [GoFormatter] {sql : Text} {report : Report}
    {w w' : Workspace} {p : Path}
    (hdry : c.dryRun = false)
    (h : exec (c.run sql : Procedure Workspace Report) w = (.ok report, w'))
    (hp : p ∈ report.files) : ∃ place, w'.resolve p = .ok place := by
  obtain ⟨plan, -, -, hreport, hwrote⟩ := wroteAll_of_run hdry h
  rw [hreport] at hp
  obtain ⟨o, ho, rfl⟩ := List.mem_map.mp hp
  exact hwrote.resolve ho

/-- The files of tables have different paths exactly if nothing makes two of them share
one, and a run replaces a file by nothing but a later output at the same place.  Of the files
that are left, Go files are formatted if the configuration asks for it; all others hold the
texts that were rendered for them. -/
theorem files_of_run [Template.Engine] [GoFormatter] {sql : Text} {report : Report}
    {w w' : Workspace}
    (h : exec (c.run sql : Procedure Workspace Report) w = (.ok report, w')) :
    report.files = c.tablePaths report.tables ++ c.enabledKinds.map c.combinedPath
      ∧ ((∀ table ∈ report.tables, '/' ∉ table) →
        ((c.tablePaths report.tables).Pairwise (fun p q => ¬ Path.same p q)
          ↔ c.TablesApart report.tables))
      ∧ (c.dryRun = false →
        (∃ plan, c.plan w sql = .ok plan ∧ report.files = plan.outputs.map (·.path)
          ∧ w'.HoldsLast plan.outputs
          ∧ (∀ o ∈ plan.outputs,
            o.formatted = (c.formatGo && o.path.extension? = some "go".toList))
          ∧ (c.formatGo = false →
            ∀ o ∈ plan.outputs, o.bytes = FileAccess.bytesOfText o.text))
        ∧ ∀ table ∈ report.tables, ∀ k ∈ c.enabledKinds, '/' ∉ table →
          ∀ table' ∈ report.tables, ∀ k' ∈ c.enabledKinds, '/' ∉ table' →
            (w'.resolve (c.artifactPath k table) = w'.resolve (c.artifactPath k' table')
              ↔ table = table' ∧ k.extension = k'.extension
                ∧ w'.resolveInto (c.artifactDir k) = w'.resolveInto (c.artifactDir k'))) := by
  have hfiles : report.files
      = c.tablePaths report.tables ++ c.enabledKinds.map c.combinedPath := by
    rw [report_of_run h, files_report]
  refine ⟨hfiles, pairwise_tablePaths, fun hdry => ?_⟩
  obtain ⟨plan, hplan, -, hreport, hwrote⟩ := wroteAll_of_run hdry h
  have hpaths : report.files = plan.outputs.map (·.path) := by rw [hreport]
  refine ⟨⟨plan, hplan, hpaths, hwrote.holdsLast, formatted_of_plan hplan,
    bytes_of_plan hplan⟩, ?_⟩
  -- a path that was written leads to a place
  have hresolve {table : Text} (htable : table ∈ report.tables) {k : ArtifactKind}
      (hk : k ∈ c.enabledKinds) : ∃ place, w'.resolve (c.artifactPath k table) = .ok place := by
    have hmem : c.artifactPath k table ∈ plan.outputs.map (·.path) := by
      rw [← hpaths, hfiles]
      exact List.mem_append_left _ (List.mem_flatMap_of_mem htable (List.mem_map_of_mem hk))
    obtain ⟨o, ho, hpath⟩ := List.mem_map.mp hmem
    rw [← hpath]
    exact hwrote.resolve ho
  intro table htable k hk hslash table' htable' k' hk' hslash'
  obtain ⟨place, hplace⟩ := hresolve htable hk
  obtain ⟨place', hplace'⟩ := hresolve htable' hk'
  exact resolve_artifactPath_eq hslash hslash' hplace hplace'

end Config

/-! ## Two kinds in one directory -/

namespace Sample

def oneTable : Text := "CREATE TABLE IF NOT EXISTS a ()".toList

/-- A directory with short templates for two kinds, and a schema beside it. -/
def stocked : Workspace where
  entries := workspace.entries ++
    [(["t".toList, "service.tmpl".toList], .file "other file".toUTF8),
      (["t".toList, "service_aggregate.tmpl".toList], .file "other row".toUTF8),
      (["s".toList], .file (FileAccess.bytesOfText oneTable))]

/-- Handlers and services, both in the directory `o`. -/
def sharing : Config :=
  { config with
    schemaFile := "s".toList
    directories := .const (some "o".toList)
    enabled := .ofFunction fun k => k = .handler || k = .service }

def sharingReport : Report where
  tables := ["a".toList]
  files := ["o/a.go".toList, "o/a.go".toList, "o/api.go".toList, "o/services.go".toList]

/-- What is left of two files at one path is the second one. -/
def sharingGenerated : Workspace where
  entries := stocked.entries ++
    [(["o".toList], .directory),
      (["o".toList, "a.go".toList], .file "other file".toUTF8),
      (["o".toList, "api.go".toList], .file "row\n".toUTF8),
      (["o".toList, "services.go".toList], .file "other row\n".toUTF8)]

theorem run_sharing : exec (sharing.run oneTable : Procedure Workspace Report) stocked
    = (.ok sharingReport, sharingGenerated) := by
  decide +kernel

end Sample

namespace Config

theorem files_of_run_sharing :
    (∃ plan, Sample.sharing.plan Sample.stocked Sample.oneTable = .ok plan
        ∧ Sample.sharingReport.files = plan.outputs.map (·.path)
        ∧ Sample.sharingGenerated.HoldsLast plan.outputs
        ∧ (∀ o ∈ plan.outputs,
          o.formatted = (Sample.sharing.formatGo && o.path.extension? = some "go".toList))
        ∧ (Sample.sharing.formatGo = false →
          ∀ o ∈ plan.outputs, o.bytes = FileAccess.bytesOfText o.text))
      ∧ ¬ Sample.sharing.TablesApart Sample.sharingReport.tables := by
  obtain ⟨-, hpaths, hfiles⟩ := files_of_run Sample.run_sharing
  refine ⟨(hfiles rfl).1, fun hapart => ?_⟩
  exact absurd ((hpaths (by decide)).mpr hapart) (by decide)

/-- An accepted configuration may give two kinds one directory, and the files of a table
the same path. -/
theorem not_pairwise_tablePaths :
    ¬ ∀ (c : Config) (sql : Text) (report : Report) (w w' : Workspace),
      (exec (c.validate : Procedure Workspace Unit) w).1 = .ok ()
        → exec (c.run sql : Procedure Workspace Report) w = (.ok report, w')
        → (c.tablePaths report.tables).Pairwise (fun p q => ¬ Path.same p q) := by
  intro h
  have hvalid : (exec (Sample.sharing.validate : Procedure Workspace Unit) Sample.stocked).1
      = .ok () := by
    decide
  exact absurd (h _ _ _ _ _ hvalid Sample.run_sharing) (by decide)

end Config

end TableScaffold
