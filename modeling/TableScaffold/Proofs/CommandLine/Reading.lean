import TableScaffold.CommandLine.Program
import TableScaffold.Proofs.Files.Execution

set_option autoImplicit false

/-!
# What the program only reads

Loading a configuration and accepting it changes no file (`keeps_load`,
`keeps_validate`).  So a dry run that finishes has found everything in the workspace
that it started in, and lists what the run reports (`perform_eq_finished`).
-/

namespace TableScaffold

/-! ## Actions that change nothing -/

section Keeps

variable {α β : Type}

/-- An action leaves every workspace as it is. -/
def Keeps (x : StateM Workspace α) : Prop := ∀ w, (x.run w).2 = w

theorem Keeps.pure (a : α) : Keeps (Pure.pure a) := fun _ => rfl

theorem Keeps.bind {x : StateM Workspace α} {f : α → StateM Workspace β} (h : Keeps x)
    (hf : ∀ a, Keeps (f a)) : Keeps (x >>= f) := fun w =>
  (hf _ _).trans (h w)

namespace Procedure

/-- An action that may fail leaves every workspace as it is. -/
def Keeps (x : Procedure Workspace α) : Prop := ∀ w, (exec x w).2 = w

theorem Keeps.bind {x : Procedure Workspace α} {f : α → Procedure Workspace β} (h : Keeps x)
    (hf : ∀ a, Keeps (f a)) : Keeps (x >>= f) := by
  intro w
  have hw := h w
  rw [exec_bind]
  generalize exec x w = ending at hw
  obtain ⟨_ | a, w'⟩ := ending
  · exact hw
  · exact (hf a w').trans hw

theorem Keeps.exec_eq {x : Procedure Workspace α} (h : Keeps x) (w : Workspace) :
    exec x w = ((exec x w).1, w) := congrArg (Prod.mk _) (h w)

end Procedure

end Keeps

/-! ## Loading and accepting a configuration -/

namespace Config

theorem keeps_isFile (p : Path) : Keeps (isFile p) := fun _ => rfl

theorem keeps_firstFile (ps : List (Path × FileFormat)) : Keeps (firstFile ps) := by
  induction ps with
  | nil => exact .pure none
  | cons p ps ih =>
    refine (keeps_isFile p.1).bind fun there => ?_
    cases there with
    | true => exact .pure _
    | false => exact ih

theorem keeps_findFile (name : Path) : Keeps (findFile name) := by
  unfold findFile
  refine .bind (fun _ => rfl) fun home => (keeps_isFile _).bind fun there => ?_
  cases there with
  | true =>
    rw [if_pos rfl]
    split <;> exact .pure _
  | false =>
    refine (keeps_firstFile _).bind fun found => ?_
    split <;> exact .pure _

theorem keeps_fileSettings [ForeignSettings] (name : Path) : Keeps (fileSettings name) := by
  unfold fileSettings
  refine (keeps_findFile name).bind fun found => ?_
  split
  · exact .pure _
  · refine .bind (fun _ => rfl) fun bytes => ?_
    split
    · exact .pure _
    · exact .bind (fun _ => rfl) fun home => .pure _

theorem keeps_sourceSettings [ForeignSettings] (name : Option Path) :
    Keeps (sourceSettings name) := by
  unfold sourceSettings
  cases name with
  | some name => exact keeps_fileSettings name
  | none =>
    refine (keeps_findFile _).bind fun found => ?_
    split
    · exact .pure _
    · exact keeps_fileSettings _

theorem keeps_load [ForeignSettings] (name : Option Path) (environment : Environment) :
    Procedure.Keeps (load name environment) := by
  unfold load
  refine .bind (keeps_sourceSettings name) fun settings => ?_
  split
  · exact fun _ => rfl
  · split <;> exact fun _ => rfl

theorem keeps_require (condition : Bool) (fault : ValidationFault) :
    Procedure.Keeps (require condition fault) := by
  unfold require
  split <;> exact fun _ => rfl

theorem keeps_validate (c : Config) : Procedure.Keeps c.validate := by
  unfold validate
  refine (keeps_require _ _).bind fun _ => .bind (fun _ => rfl) fun there => ?_
  refine (keeps_require _ _).bind fun _ => (keeps_require _ _).bind fun _ => ?_
  refine (keeps_require _ _).bind fun _ => (keeps_require _ _).bind fun _ => ?_
  split
  · exact .bind (fun _ => rfl) fun there => keeps_require _ _
  · exact fun _ => rfl

end Config

/-! ## Dry runs -/

variable [GoFormatter] [Template.Engine]

/-- Generating reads the schema file and then runs. -/
theorem Config.exec_generate_eq_ok {c : Config} {w w' : Workspace} {report : Report} :
    Procedure.exec (c.generate : Procedure Workspace Report) w = (.ok report, w')
      ↔ ∃ sql, (w.readBytes c.schemaFile).bind FileAccess.textOfBytes = .ok sql
        ∧ Procedure.exec (c.run sql) w = (.ok report, w') := by
  have hread : (FileAccess.readText c.schemaFile : StateM Workspace _).run w
      = ((w.readBytes c.schemaFile).bind FileAccess.textOfBytes, w) := rfl
  unfold Config.generate
  rw [Procedure.exec_bind, Procedure.exec_lift, hread]
  cases (w.readBytes c.schemaFile).bind FileAccess.textOfBytes with
  | error fault =>
    refine ⟨nofun, ?_⟩
    rintro ⟨_, h, -⟩
    cases h
  | ok sql =>
    constructor
    · exact fun h => ⟨sql, rfl, h⟩
    · rintro ⟨_, h, hrun⟩
      rw [Except.ok.inj h]
      exact hrun

namespace CommandLine

open Procedure

variable {w : Workspace} {output : Text}

omit [GoFormatter] [Template.Engine] in
theorem dryRun_override {o : Options} (hdry : o.dryRun = true) (c : Config) :
    (o.override c).dryRun = true := by
  unfold Options.override
  split
  · simp [Config.only, hdry]
  · simp [hdry]

theorem generate_eq_finished {c : Config} (hdry : c.dryRun = true) :
    ((generate c : StateM Workspace Outcome).run w).1 = .finished output
      ↔ ∃ report, (exec (do c.validate; c.generate) w).1 = .ok report
        ∧ output = dryRunLines report.files := by
  unfold generate
  rcases hresult : exec (do c.validate; c.generate) w with ⟨result, w'⟩
  have hrun : (ExceptT.run (do c.validate; c.generate) : StateM Workspace _).run w
      = (result, w') := hresult
  rw [StateT.run_bind, hrun]
  cases result with
  | error e =>
    refine ⟨nofun, ?_⟩
    rintro ⟨_, h, -⟩
    cases h
  | ok report =>
    change Outcome.finished (if c.dryRun then dryRunLines report.files else []) = _ ↔ _
    rw [if_pos hdry]
    constructor
    · intro h
      exact ⟨report, rfl, (Outcome.finished.inj h).symm⟩
    · rintro ⟨_, h, rfl⟩
      rw [Except.ok.inj h]

variable [ForeignSettings]

/-- A command line for a dry run finishes if everything is read and the run succeeds, and
then it lists the files of the report. -/
theorem perform_eq_finished {o : Options} (hdry : o.dryRun = true)
    (hcommand : o.command ≠ some .inspect) {environment : Environment} :
    ((perform o environment : StateM Workspace Outcome).run w).1 = .finished output
      ↔ ∃ c sql report, (exec (Config.load o.config environment) w).1 = .ok c
        ∧ (exec (o.override c).validate w).1 = .ok ()
        ∧ (w.readBytes (o.override c).schemaFile).bind FileAccess.textOfBytes = .ok sql
        ∧ (exec ((o.override c).run sql) w).1 = .ok report
        ∧ output = dryRunLines report.files := by
  unfold perform
  have hload := (Config.keeps_load o.config environment).exec_eq w
  generalize (exec (Config.load o.config environment) w).1 = result at hload ⊢
  have hrun : (ExceptT.run (Config.load o.config environment) : StateM Workspace _).run w
      = (result, w) := hload
  rw [StateT.run_bind, hrun]
  cases result with
  | error e =>
    refine ⟨nofun, ?_⟩
    rintro ⟨_, _, _, h, -⟩
    cases h
  | ok c =>
    change ((if o.command = some .inspect then _ else generate (o.override c)
      : StateM Workspace Outcome).run w).1 = _ ↔ _
    rw [if_neg hcommand, generate_eq_finished (dryRun_override hdry c), exec_bind]
    rw [(Config.keeps_validate (o.override c)).exec_eq w]
    constructor
    · rintro ⟨report, hreport, hout⟩
      cases haccepted : (exec (o.override c).validate w).1 with
      | error e =>
        rw [haccepted] at hreport
        cases hreport
      | ok _ =>
        rw [haccepted] at hreport
        obtain ⟨sql, hsql, hrun⟩ := Config.exec_generate_eq_ok.mp (Prod.ext hreport rfl)
        exact ⟨c, sql, report, rfl, haccepted, hsql, congrArg Prod.fst hrun, hout⟩
    · rintro ⟨_, sql, report, hc, haccepted, hsql, hrun, hout⟩
      cases hc
      rw [haccepted]
      refine ⟨report, ?_, hout⟩
      exact congrArg Prod.fst (Config.exec_generate_eq_ok.mpr ⟨sql, hsql, Prod.ext hrun rfl⟩)

/-- The program changes no file if the run that it asks for changes none. -/
theorem perform_keeps {o : Options} (hcommand : o.command ≠ some .inspect)
    {environment : Environment}
    (hruns : ∀ c, (exec (Config.load o.config environment) w).1 = .ok c →
      ∀ sql, Procedure.Keeps ((o.override c).run sql)) :
    ((perform o environment : StateM Workspace Outcome).run w).2 = w := by
  unfold perform
  have hload := (Config.keeps_load o.config environment).exec_eq w
  generalize (exec (Config.load o.config environment) w).1 = result at hload hruns
  have hrun : (ExceptT.run (Config.load o.config environment) : StateM Workspace _).run w
      = (result, w) := hload
  rw [StateT.run_bind, hrun]
  cases result with
  | error e => rfl
  | ok c =>
    change ((if o.command = some .inspect then _ else generate (o.override c)
      : StateM Workspace Outcome).run w).2 = w
    rw [if_neg hcommand]
    have hgenerate : Procedure.Keeps (o.override c).generate := by
      unfold Config.generate
      refine .bind (fun _ => rfl) fun read => ?_
      split
      · exact fun _ => rfl
      · exact hruns c rfl _
    have hboth := (Config.keeps_validate (o.override c)).bind fun _ => hgenerate
    unfold generate
    refine Keeps.bind (fun w => hboth w) (fun result => ?_) w
    split <;> exact .pure _

end CommandLine

end TableScaffold
