import TableScaffold.Proofs.Files.Rewriting
import TableScaffold.Proofs.Generation.Independence

set_option autoImplicit false

/-!
# Running again

With built-in templates a run writes what its schema and its configuration say, wherever it
is.  So a run that has succeeded finds all its files when it is made again, and changes nothing
(`Attempt.again`); and two runs leave the same files, whatever was there before
(`WroteAll.readBytes_eq`).  Both are parts of `Config.run_again`.  From another directory, paths
may lead elsewhere, and a file may not be replaced that was replaced before
(`Config.not_readBytes_of_runs`).
-/

namespace TableScaffold

open Procedure Workspace

/-! ## The same writes once more -/

section Writes

variable [GoFormatter] {v v' w w' : Workspace} {p : Path} {os : List Output}

omit [GoFormatter] in
theorem Workspace.not_writeFails_of_holds {o : Output} {e : ScaffoldError} (h : w.Holds o.path) :
    ¬ Config.WriteFails w o e := by
  obtain ⟨place, hplace, hfile⟩ := holds_iff.mp h
  intro hfails
  cases hfails with
  | directory hdir hfault =>
    rw [run_makeDirectories_of_hasFile hplace hfile hdir] at hfault
    cases hfault
  | file hfault =>
    rw [makeAbove_of_hasFile hplace hfile,
      writeBytes_eq_ok.mpr ⟨place, hplace, hfile.ne_directory, rfl⟩] at hfault
    cases hfault

/-- Where some outputs have been written, the attempt to write them succeeds and leaves all as
it is. -/
theorem Attempt.again {α : Type} {result : Except ScaffoldError α}
    {ending : Except ScaffoldError α × Workspace} (hwrote : WroteAll os v w)
    (h : Attempt os result w ending) : ending = (result, w) := by
  cases h with
  | complete hagain => rw [hwrote.again hagain]
  | @cut before behind o w₁ e heq hbefore hfails =>
    have ho : w.Holds o.path := by
      apply hwrote.holds
      rw [heq]
      exact List.mem_append_right _ List.mem_cons_self
    exact absurd hfails (not_writeFails_of_holds (hbefore.others.holds ho))

omit [GoFormatter] in
theorem Workspace.readBytes_congr {q : Path} (h : w.resolve q = w.resolve p) :
    w.readBytes q = w.readBytes p := by
  unfold readBytes
  rw [h]

/-- A file has the same contents wherever the same outputs have been written, if the same of
them are that file. -/
theorem Workspace.WroteAll.readBytes_eq (h : WroteAll os v w) (h' : WroteAll os v' w')
    (hp : p ∈ os.map (·.path))
    (hsame : ∀ q ∈ os.map (·.path), w.resolve q = w.resolve p ↔ w'.resolve q = w'.resolve p) :
    ∃ bytes, w.readBytes p = .ok bytes ∧ w'.readBytes p = .ok bytes := by
  obtain ⟨o, ho, rfl⟩ := List.mem_map.mp hp
  obtain ⟨front, last, rest, rfl, hlast, hrest⟩ :=
    exists_last (p := fun o' : Output => w.resolve o'.path = w.resolve o.path) ⟨o, ho, rfl⟩
  simp only [List.forall_mem_map] at hsame
  have hlast' : w'.resolve last.path = w'.resolve o.path :=
    (hsame last (List.mem_append_right _ List.mem_cons_self)).mp hlast
  refine ⟨last.bytes, ?_, ?_⟩
  · rw [← readBytes_congr hlast]
    apply h.readBytes
    intro later hlater
    rw [hlast]
    exact hrest later hlater
  · rw [← readBytes_congr hlast']
    apply h'.readBytes
    intro later hlater heq
    apply hrest later hlater
    apply (hsame later (List.mem_append_right _ (List.mem_cons_of_mem _ hlater))).mpr
    rw [heq, hlast']

/-- Where a file is already there, it is told from the places of the files before the writes
which of them is written last. -/
theorem Workspace.WroteAll.readBytes_of_places (os : List Output) {os' : List Output} {o : Output}
    (h : WroteAll (os ++ o :: os') v w)
    (hthere : ∀ q ∈ p :: o.path :: os'.map (·.path), (v.resolve q).isOk = true)
    (hp : v.resolve p = v.resolve o.path)
    (hlast : ∀ q ∈ os'.map (·.path), v.resolve q ≠ v.resolve o.path) :
    w.readBytes p = .ok o.bytes := by
  have hplace : ∀ q ∈ p :: o.path :: os'.map (·.path), w.resolve q = v.resolve q := by
    intro q hq
    have hok := hthere q hq
    cases hresolve : v.resolve q with
    | ok place => exact h.others.resolve hresolve
    | error e =>
      rw [hresolve] at hok
      cases hok
  rw [List.forall_mem_cons, List.forall_mem_cons] at hplace
  obtain ⟨hfirst, hsecond, hrest⟩ := hplace
  rw [readBytes_congr (hfirst.trans (hp.trans hsecond.symm))]
  apply h.readBytes
  intro o' ho'
  have hmem := List.mem_map_of_mem (f := Output.path) ho'
  rw [hrest _ hmem, hsecond]
  exact hlast _ hmem


/-- From one directory, the same outputs are written to the same places. -/
theorem Workspace.WroteAll.resolve_eq (h : WroteAll os v w) (h' : WroteAll os v' w')
    (hhome : v.home = v'.home) (hp : p ∈ os.map (·.path)) : w.resolve p = w'.resolve p := by
  obtain ⟨o, ho, rfl⟩ := List.mem_map.mp hp
  obtain ⟨place, hplace⟩ := h.resolve ho
  obtain ⟨place', hplace'⟩ := h'.resolve ho
  have hhome' : w.home = w'.home := by rw [h.others.home, h'.others.home, hhome]
  rw [hplace, hplace', resolve_unique hhome' hplace hplace']

end Writes

/-! ## Runs -/

namespace Config

variable [Template.Engine] [GoFormatter] {c : Config} {sql : Text} {report report' : Report}
  {v v' w w' : Workspace}

/-- A run that has succeeded succeeds again, with the same report, and changes nothing. -/
theorem exec_run_again (hbuiltin : c.templateDir = none)
    (h : exec (c.run sql : Procedure Workspace Report) v = (.ok report, w)) :
    exec (c.run sql : Procedure Workspace Report) w = (.ok report, w) := by
  obtain ⟨hfailure, files, combined, hgenerates, -⟩ := generates_of_run h
  obtain ⟨-, -, hwrote⟩ := generated_of_run hbuiltin h
  have hproduces : c.Produces w (c.selected (Schema.read sql)) (c.builtinArtifacts _) :=
    produces_builtin hbuiltin hgenerates.clear
  have hattempt := delivers_run hbuiltin hfailure hproduces.generates
    hproduces.mapM_combinedOutput w
  rw [← outputs_builtinArtifacts] at hwrote
  rw [report_of_run h]
  exact hattempt.again hwrote

/-- With built-in templates a run may be made again, and what it leaves does not depend on
what it finds.  After a run that has succeeded, the same run succeeds with the same report and
changes nothing; and any other successful run of this kind has this report as well and, unless
nothing is to be written, has written to the same places from the same directory, and leaves the
same contents in every file.  The contents are the same from other directories too, for each file
that the same paths lead to. -/
theorem run_again (hbuiltin : c.templateDir = none)
    (h : exec (c.run sql : Procedure Workspace Report) v = (.ok report, w)) :
    exec (c.run sql : Procedure Workspace Report) w = (.ok report, w)
      ∧ ∀ (v' w' : Workspace) (report' : Report),
        exec (c.run sql : Procedure Workspace Report) v' = (.ok report', w') →
          report' = report ∧ (c.dryRun = false → ∀ p ∈ report.files,
            (v.home = v'.home → w.resolve p = w'.resolve p
              ∧ ∃ bytes, w.readBytes p = .ok bytes ∧ w'.readBytes p = .ok bytes)
            ∧ ((∀ q ∈ report.files, w.resolve q = w.resolve p ↔ w'.resolve q = w'.resolve p) →
              ∃ bytes, w.readBytes p = .ok bytes ∧ w'.readBytes p = .ok bytes)) := by
  refine ⟨exec_run_again hbuiltin h, ?_⟩
  intro v' w' report' h'
  refine ⟨(report_of_run h').trans (report_of_run h).symm, ?_⟩
  intro hdry p hp
  obtain ⟨-, hreport, hwrote⟩ := generated_of_run hbuiltin h
  obtain ⟨-, -, hwrote'⟩ := generated_of_run hbuiltin h'
  rw [performed_of_not_dryRun hdry] at hwrote hwrote'
  rw [hreport] at hp ⊢
  have hplaces (hhome : v.home = v'.home) :=
    fun q hq => hwrote.resolve_eq (p := q) hwrote' hhome hq
  refine ⟨?_, hwrote.readBytes_eq hwrote' hp⟩
  intro hhome
  refine ⟨hplaces hhome p hp, hwrote.readBytes_eq hwrote' hp ?_⟩
  intro q hq
  rw [hplaces hhome p hp, hplaces hhome q hq]

end Config

/-! ## A run over stale files -/

namespace Sample

theorem run_bothKinds_stale :
    ∃ w, exec (bothKinds.run firstTable : Procedure Workspace Report) bothWritten
      = (.ok (bothKinds.report (bothKinds.selected (Schema.read firstTable))), w) := by
  have hfailure : (Schema.read firstTable).failure = none := by rw [read_firstTable]
  refine Config.exists_run_of_beneath rfl hfailure ?_ (.refl rfl) fun _ => ?_
  · rw [read_firstTable]
    decide
  · rw [read_firstTable]
    decide

end Sample

theorem Config.run_again_stale :
    ∃ report w w', exec (Sample.bothKinds.run Sample.firstTable : Procedure Workspace Report) {}
        = (.ok report, w)
      ∧ exec (Sample.bothKinds.run Sample.firstTable : Procedure Workspace Report)
        Sample.bothWritten = (.ok report, w')
      ∧ exec (Sample.bothKinds.run Sample.firstTable : Procedure Workspace Report) w
        = (.ok report, w)
      ∧ report.files.length = 4
      ∧ ∀ p ∈ report.files, ∃ bytes, w.readBytes p = .ok bytes ∧ w'.readBytes p = .ok bytes := by
  obtain ⟨w, h⟩ := Sample.run_bothKinds
  obtain ⟨w', h'⟩ := Sample.run_bothKinds_stale
  obtain ⟨hagain, hothers⟩ := run_again (c := Sample.bothKinds) rfl h
  refine ⟨_, w, w', h, h', hagain, ?_, ?_⟩
  · rw [Sample.read_firstTable]
    decide
  intro p hp
  exact (((hothers _ _ _ h').2 rfl p hp).1 rfl).2

/-! ## Runs from two directories -/

namespace Sample

/-- Handlers in one directory, and services in one that is the same seen from `/a`. -/
def twoViews : Config where
  directories := .ofFunction fun k => some (if k = .handler then "/a/o".toList else "o".toList)
  enabled := .ofFunction fun k => k = .handler || k = .service

/-- The files of runs in `/a` and in `/b`, seen from one of these directories. -/
def seenFrom (home : Text) : Workspace where
  home := [home]
  entries :=
    ([["a"], ["a", "o"], ["b"], ["b", "o"]].map fun place =>
        (place.map String.toList, .directory))
      ++ ([["a", "o", "a.go"], ["a", "o", "api.go"], ["a", "o", "services.go"],
        ["b", "o", "a.go"], ["b", "o", "services.go"]].map fun place =>
          (place.map String.toList, .file ByteArray.empty))

theorem run_twoViews (home : Text) (h : home = "a".toList ∨ home = "b".toList) :
    ∃ w, exec (twoViews.run firstTable : Procedure Workspace Report) (seenFrom home)
      = (.ok (twoViews.report (twoViews.selected (Schema.read firstTable))), w) := by
  have hstart : (seenFrom home).entryAt (seenFrom home).home = some .directory := by
    rcases h with rfl | rfl <;> decide
  have hfailure : (Schema.read firstTable).failure = none := by rw [read_firstTable]
  refine Config.exists_run_of_beneath rfl hfailure ?_ (.refl hstart) fun _ => ?_
  · rw [read_firstTable]
    decide
  · rw [read_firstTable]
    rcases h with rfl | rfl
    · decide
    · decide

/-- What both runs write, in order. -/
theorem wroteAll_twoViews {home : Text} {w : Workspace} {report : Report}
    (h : exec (twoViews.run firstTable : Procedure Workspace Report) (seenFrom home)
      = (.ok report, w)) :
    WroteAll [twoViews.builtinFile bareTable .handler, twoViews.builtinFile bareTable .service,
      twoViews.builtinCombined [bareTable] .handler, twoViews.builtinCombined [bareTable] .service]
      (seenFrom home) w := by
  have htables : twoViews.selected (Schema.read firstTable) = [bareTable] := by
    rw [read_firstTable]
    decide
  obtain ⟨-, -, hwrote⟩ := Config.generated_of_run (c := twoViews) rfl h
  rwa [htables] at hwrote

/-- The two templates begin with the names of their packages. -/
theorem text_builtinFile_twoViews :
    "package service".toList <+: (twoViews.builtinFile bareTable .service).text
      ∧ "package handlers".toList <+: (twoViews.builtinFile bareTable .handler).text :=
  ⟨⟨_, (List.append_assoc "package service".toList ['\n'] (Text.join ['\n'] _)).symm⟩,
    ⟨_, (List.append_assoc "package handlers".toList ['\n'] (Text.join ['\n'] _)).symm⟩⟩

end Sample

/-- Two paths of a run may lead to one file from one directory, and to two files from another. -/
theorem Config.not_readBytes_of_runs :
    ¬ ∀ (c : Config) (sql : Text) (v v' w w' : Workspace) (report report' : Report),
      c.templateDir = none → c.dryRun = false →
      exec (c.run sql : Procedure Workspace Report) v = (.ok report, w) →
      exec (c.run sql : Procedure Workspace Report) v' = (.ok report', w') →
      report = report' ∧ ∀ p ∈ report.files, w.readBytes p = w'.readBytes p := by
  intro h
  obtain ⟨w, hrun⟩ := Sample.run_twoViews "a".toList (.inl rfl)
  obtain ⟨w', hrun'⟩ := Sample.run_twoViews "b".toList (.inr rfl)
  have hmem : "/a/o/a.go".toList ∈ (Sample.twoViews.report
      (Sample.twoViews.selected (Schema.read Sample.firstTable))).files := by
    rw [Sample.read_firstTable]
    decide
  have hsame := (h _ _ _ _ _ _ _ _ rfl rfl hrun hrun').2 _ hmem
  have hservice : w.readBytes "/a/o/a.go".toList
      = .ok (Sample.twoViews.builtinFile Sample.bareTable .service).bytes :=
    (Sample.wroteAll_twoViews hrun).readBytes_of_places [_] (by decide) (by decide) (by decide)
  have hhandler : w'.readBytes "/a/o/a.go".toList
      = .ok (Sample.twoViews.builtinFile Sample.bareTable .handler).bytes :=
    (Sample.wroteAll_twoViews hrun').readBytes_of_places [] (by decide) (by decide) (by decide)
  rw [hservice, hhandler, Except.ok.injEq, Output.bytes_of_not_formatted rfl,
    Output.bytes_of_not_formatted rfl] at hsame
  have htexts := FileAccess.bytesOfText_injective hsame
  obtain ⟨hfront, hfront'⟩ := Sample.text_builtinFile_twoViews
  rw [htexts] at hfront
  exact absurd (List.prefix_of_prefix_length_le hfront hfront' (by decide)) (by decide)

end TableScaffold
