import TableScaffold.Proofs.CommandLine.Reading
import TableScaffold.Proofs.Generation.BuiltinArtifacts

set_option autoImplicit false

/-!
# A dry run foretells the run

With built-in templates a run reads nothing, so every step of it but the writes ends the
same way in all workspaces, and a dry run is the run without its writes
(`foretells_run`).  It follows that a dry run changes nothing, and that the run itself
ends as the dry run does unless one of its files cannot be written
(`dryRun_foretells_run`).
-/

namespace TableScaffold

open Procedure Workspace

/-! ## Steps -/

section Steps

variable [GoFormatter]

/-- Built-in templates render the same way everywhere. -/
theorem TemplateSource.foretells_render_builtin [Template.Engine] {formats : Path → Bool}
    (name : Text) (slots : Slots) :
    Foretells formats (builtin.render name slots) (builtin.render name slots)
      (builtin.render name slots) := by
  unfold render load
  dsimp only
  refine Foretells.bind ?_ fun template => ?_
  · split
    · exact foretells_pure _
    · exact foretells_throw _
  · cases Template.render name template slots with
    | ok text => exact foretells_pure text
    | error failure => exact foretells_throw _

namespace Config

variable {c : Config}

/-- The configuration with or without the order to write nothing. -/
def withDryRun (c : Config) (dry : Bool) : Config := { c with dryRun := dry }

omit [GoFormatter] in
theorem exec_draft_writeFile (hwet : c.dryRun = false) (p : Path) (t : Text) (d : Draft) :
    exec (c.writeFile p t : Procedure Draft Unit) d = (.ok (), d.extend [c.output p t]) := by
  have habove : exec (ensureAbove p : Procedure Draft Unit) d = (.ok (), d) := by
    unfold ensureAbove
    split
    · rw [Draft.makeDirectories_eq]
      rfl
    · rfl
  rw [writeFile_eq hwet, exec_bind, habove]
  dsimp only
  unfold formatWritten
  cases c.formats p <;> rfl

/-- A write that is left out foretells the write: there is one file to write, and no more
can happen than that it cannot be written. -/
theorem foretells_writeFile {dry wet : Config} (hdry : dry.dryRun = true)
    (hwet : wet.dryRun = false) (p : Path) (t : Text) :
    Foretells wet.formats (dry.writeFile p t) (wet.writeFile p t) (wet.writeFile p t) := by
  refine fun d => ⟨.ok (), [wet.output p t], exec_draft_writeFile hwet p t d, by simp [output],
    fun w => ⟨?_, ?_⟩⟩
  · rw [writeFile_of_dryRun hdry]
    rfl
  · have hattempt := attempt_writeFile wet p t w
    rwa [performed_of_not_dryRun hwet] at hattempt

theorem foretells_checkCollision (c : Config) (dry wet : Bool) (table : Text) :
    Foretells c.formats ((c.withDryRun dry).checkCollision table)
      ((c.withDryRun wet).checkCollision table) ((c.withDryRun wet).checkCollision table) := by
  change Foretells c.formats (c.checkCollision table) (c.checkCollision table)
    (c.checkCollision table)
  unfold checkCollision
  split
  · exact foretells_throw _
  · exact foretells_pure ()

variable [Template.Engine] (hbuiltin : c.templateDir = none)
include hbuiltin

theorem foretells_emitKind (t : Table) (b : Combined) :
    Foretells c.formats ((c.withDryRun true).emitKind t b) ((c.withDryRun false).emitKind t b)
      ((c.withDryRun false).emitKind t b) := by
  have hsource (dry : Bool) : (c.withDryRun dry).templateSource = .builtin := by
    unfold templateSource withDryRun
    rw [hbuiltin]
  unfold emitKind
  rw [hsource, hsource]
  refine (TemplateSource.foretells_render_builtin _ _).bind fun text => ?_
  refine (foretells_writeFile rfl rfl _ _).bind fun _ => ?_
  exact (TemplateSource.foretells_render_builtin _ _).bind fun s => foretells_pure _

theorem foretells_emitTable (bs : List Combined) (t : Table) :
    Foretells c.formats ((c.withDryRun true).emitTable bs t) ((c.withDryRun false).emitTable bs t)
      ((c.withDryRun false).emitTable bs t) :=
  (foretells_checkCollision c true false t.name).bind fun _ =>
    foretells_mapM (foretells_emitKind hbuiltin t) bs

/-- A dry run is the run without its writes. -/
theorem foretells_run (sql : Text) :
    Foretells c.formats ((c.withDryRun true).run sql) ((c.withDryRun false).run sql)
      ((c.withDryRun false).run sql) := by
  rw [run_eq_emit, run_eq_emit, run_eq_emit]
  unfold emit
  refine (foretells_foldlM (foretells_emitTable hbuiltin) _ _).bind fun bs => ?_
  cases (Schema.read sql).failure with
  | some e => exact foretells_throw _
  | none =>
    exact (foretells_forM (fun b => foretells_writeFile rfl rfl _ _) bs).bind
      fun _ => foretells_pure _

omit hbuiltin [Template.Engine] [GoFormatter] in
theorem withDryRun_of_dryRun (hdry : c.dryRun = true) : c.withDryRun true = c := by
  unfold withDryRun
  rw [← hdry]

theorem keeps_run_of_dryRun (hdry : c.dryRun = true) (sql : Text) :
    Procedure.Keeps (c.run sql) := by
  intro w
  obtain ⟨result, os, -, -, hw⟩ := foretells_run hbuiltin sql {}
  rw [← withDryRun_of_dryRun hdry, (hw w).1]

/-- With built-in templates a dry run changes nothing.  It ends as the run does, unless the
run fails with a file that cannot be written; where both fail, that is a file that the run
has to write before the step at which the dry run fails.  The program lists exactly the
files that a dry run reports. -/
theorem dryRun_foretells_run [ForeignSettings] (sql : Text) (w : Workspace) :
    let dry := exec ((c.withDryRun true).run sql : Procedure Workspace Report) w
    let run := exec ((c.withDryRun false).run sql : Procedure Workspace Report) w
    let draft := exec ((c.withDryRun false).run sql : Procedure Draft Report) {}
    dry.2 = w
    ∧ (∀ report, run.1 = .ok report → dry.1 = .ok report)
    ∧ (∀ e, run.1 = .error e → (∀ p fault, e ≠ .write p fault) → dry.1 = .error e)
    ∧ (∀ e, dry.1 = .error e → run.1 = .error e
      ∨ ∃ os before o behind w₁ p fault, draft = (.error e, ⟨os.map Output.record⟩)
        ∧ (∀ o ∈ os, o.formatted = c.formats o.path)
        ∧ os = before ++ o :: behind ∧ WroteAll before w w₁
        ∧ WriteFails w₁ o (.write p fault)
        ∧ run = (.error (.write p fault), w₁.makeAbove o.path))
    ∧ ∀ (words : List Text) (o : CommandLine.Options) (environment : Environment) (v : Workspace),
      CommandLine.Options.parse words = .ok o → o.dryRun = true → o.command ≠ some .inspect →
      ((∀ c, (exec (load o.config environment) v).1 = .ok c → (o.override c).templateDir = none) →
        ((CommandLine.run words environment : StateM Workspace _).run v).2 = v)
      ∧ ∀ output, ((CommandLine.run words environment : StateM Workspace _).run v).1
          = .finished output
        ↔ ∃ c sql report, (exec (load o.config environment) v).1 = .ok c
          ∧ (exec (o.override c).validate v).1 = .ok ()
          ∧ (v.readBytes (o.override c).schemaFile).bind FileAccess.textOfBytes = .ok sql
          ∧ (exec ((o.override c).run sql) v).1 = .ok report
          ∧ output = "Dry run mode - would generate:\n".toList
            ++ report.files.flatMap fun f => "  ".toList ++ f ++ ['\n'] := by
  intro dry run draft
  obtain ⟨result, os, hdraft, hformats, hw⟩ := foretells_run hbuiltin sql {}
  obtain ⟨hdry, hattempt⟩ := hw w
  have hdry : dry = (result, w) := hdry
  have hattempt : Attempt os result w run := hattempt
  have hdraft : draft = (result, ⟨os.map Output.record⟩) := hdraft
  clear_value dry run draft
  subst hdry
  refine ⟨rfl, fun report => hattempt.result_of_ok, fun e => hattempt.result_of_error, ?_, ?_⟩
  · rintro e rfl
    refine hattempt.error_or_cut.imp_right ?_
    rintro ⟨before, o, behind, w₁, p, fault, hos, hcut⟩
    exact ⟨os, before, o, behind, w₁, p, fault, hdraft, hformats, hos, hcut⟩
  · intro words o environment v hparse hdryRun hcommand
    have hrun : (CommandLine.run words environment : StateM Workspace _)
        = CommandLine.perform o environment := by
      unfold CommandLine.run
      rw [hparse]
    rw [hrun]
    refine ⟨fun hnone => CommandLine.perform_keeps hcommand fun c hc => ?_, fun output =>
      CommandLine.perform_eq_finished hdryRun hcommand⟩
    exact keeps_run_of_dryRun (hnone c hc) (CommandLine.dryRun_override hdryRun c)

end Config

end Steps

/-! ## A run that is cut short -/

namespace Sample

/-- The second table is refused, but the file of the first one has to be written before. -/
def refusedLater : Text :=
  "CREATE TABLE IF NOT EXISTS a (id int); CREATE TABLE IF NOT EXISTS storehouse_service ()".toList

def messages : Config := Config.only { outputDir := "o".toList } .proto

def messageRefusal : ScaffoldError :=
  .validation (.collision "storehouse_service".toList .proto
    "o/protos/storehouse_service.proto".toList)

/-- A file stands where the output directory is to be, and a schema lies beside it. -/
def blocked : Workspace where
  entries := [(["o".toList], .file "".toUTF8),
    (["s".toList], .file "CREATE TABLE IF NOT EXISTS a (id int)".toUTF8)]

/-- The table that is not refused. -/
def accepted : Table := ⟨"a".toList, [⟨"id".toList, "int".toList, []⟩]⟩

theorem read_refusedLater :
    Schema.read refusedLater = ⟨[accepted, ⟨"storehouse_service".toList, []⟩], none⟩ := by
  decide +kernel

/-- The file of the first table is to lie below another file. -/
theorem not_wroteAll_blocked [GoFormatter] {os : List Output} {o : Output} {w : Workspace}
    (ho : o.path = "o/protos/a.proto".toList) : ¬ WroteAll (o :: os) blocked w := by
  have hmade : blocked.makeAbove "o/protos/a.proto".toList = blocked := by decide
  have hblocked : blocked.resolve "o/protos/a.proto".toList = .error .notDirectory := by decide
  intro hwrote
  cases hwrote with
  | cons hfirst _ =>
    have hwritten : blocked.write o = blocked := by
      unfold Workspace.write
      rw [ho, hmade, writeBytes, hblocked]
    have hresolve := hfirst.resolve
    rw [hfirst.eq_write, hwritten, ho, hblocked] at hresolve
    cases hresolve

/-- The text of the schema that lies beside the file. -/
def acceptedSchema : Text := "CREATE TABLE IF NOT EXISTS a (id int)".toList

theorem read_acceptedSchema : Schema.read acceptedSchema = ⟨[accepted], none⟩ := by
  decide +kernel

/-- A run, with its writes or without them, gets to the second table unless the file of the
first one is in its way. -/
theorem attempt_refusedLater (dry : Bool) :
    Attempt ((messages.withDryRun dry).performed [(messages.withDryRun dry).builtinFile accepted
        .proto]) (.error messageRefusal) blocked
      (exec ((messages.withDryRun dry).run refusedLater : Procedure Workspace Report) blocked) := by
  have hselected : (messages.withDryRun dry).selected (Schema.read refusedLater)
      = [accepted] ++ ⟨"storehouse_service".toList, []⟩ :: [] := by
    rw [read_refusedLater]
    rfl
  have hclear : ∀ t ∈ [accepted], (messages.withDryRun dry).collidingKind? t.name = none := by
    cases dry <;> decide
  have hrefused : (messages.withDryRun dry).collidingKind? "storehouse_service".toList
      = some .proto := by
    cases dry <;> decide
  exact Config.attempt_run_of_refused rfl hselected hclear hrefused blocked

theorem run_refusedLater_dry : (exec ((messages.withDryRun true).run refusedLater
    : Procedure Workspace Report) blocked).1 = .error messageRefusal := by
  have hattempt := attempt_refusedLater true
  rw [Config.performed_of_dryRun rfl] at hattempt
  rw [hattempt.eq_of_nil]

theorem run_refusedLater_ne : (exec ((messages.withDryRun false).run refusedLater
    : Procedure Workspace Report) blocked).1 ≠ .error messageRefusal := by
  have hattempt := attempt_refusedLater false
  generalize exec ((messages.withDryRun false).run refusedLater) blocked = ending at hattempt ⊢
  cases hattempt with
  | complete hwrote => exact absurd hwrote (not_wroteAll_blocked rfl)
  | cut _ _ hfails =>
    obtain ⟨p, fault, rfl⟩ := hfails.eq_write
    nofun

/-- Options for a dry run on the schema beside the file. -/
def dryOptions : CommandLine.Options where
  schema := some "s".toList
  output := some "o".toList
  dryRun := true
  command := some (.only .proto)

theorem run_acceptedSchema : (exec ((dryOptions.override {}).run acceptedSchema
    : Procedure Workspace Report) blocked).1
    = .ok ⟨["a".toList],
      ["o/protos/a.proto".toList, "o/protos/storehouse_service.proto".toList]⟩ := by
  have hfailure : (Schema.read acceptedSchema).failure = none := by rw [read_acceptedSchema]
  have hclear : ∀ t ∈ (dryOptions.override {}).selected (Schema.read acceptedSchema),
      (dryOptions.override {}).collidingKind? t.name = none := by
    rw [read_acceptedSchema]
    decide
  obtain ⟨w, hrun⟩ := Config.exists_run_of_beneath rfl hfailure hclear
    (.refl (w := blocked) rfl) nofun
  rw [hrun, read_acceptedSchema]
  rfl

def dryWords : List Text :=
  ["--dry-run".toList, "--schema".toList, "s".toList, "--output".toList, "o".toList,
    "proto".toList]

end Sample

/-- The dry run gets to the second table, and the run itself only to the file before it. -/
theorem Config.dryRun_foretells_run_blocked :
    let run := exec ((Sample.messages.withDryRun false).run Sample.refusedLater
      : Procedure Workspace Report) Sample.blocked
    (exec ((Sample.messages.withDryRun true).run Sample.refusedLater
        : Procedure Workspace Report) Sample.blocked).2 = Sample.blocked
      ∧ run.1 ≠ .error Sample.messageRefusal
      ∧ (∃ os before o behind w₁ p fault,
        exec ((Sample.messages.withDryRun false).run Sample.refusedLater
          : Procedure Draft Report) {} = (.error Sample.messageRefusal, ⟨os.map Output.record⟩)
        ∧ (∀ o ∈ os, o.formatted = Sample.messages.formats o.path)
        ∧ os = before ++ o :: behind ∧ WroteAll before Sample.blocked w₁
        ∧ WriteFails w₁ o (.write p fault)
        ∧ run = (.error (.write p fault), w₁.makeAbove o.path))
      ∧ ((CommandLine.run Sample.dryWords [] : StateM Workspace _).run Sample.blocked).1
        = .finished ("Dry run mode - would generate:\n".toList
          ++ (["o/protos/a.proto".toList, "o/protos/storehouse_service.proto".toList].flatMap
            fun f => "  ".toList ++ f ++ ['\n'])) := by
  obtain ⟨hkeeps, -, -, hfails, hprogram⟩ :=
    dryRun_foretells_run (c := Sample.messages) rfl Sample.refusedLater Sample.blocked
  have hcut := hfails Sample.messageRefusal Sample.run_refusedLater_dry
  have hother := Sample.run_refusedLater_ne
  refine ⟨hkeeps, hother, hcut.resolve_left hother, ?_⟩
  have hlists := (hprogram Sample.dryWords Sample.dryOptions [] Sample.blocked (by decide)
    rfl (by decide)).2
  refine (hlists _).mpr ⟨{}, Sample.acceptedSchema,
    ⟨["a".toList], ["o/protos/a.proto".toList, "o/protos/storehouse_service.proto".toList]⟩,
    ?_, ?_, ?_, ?_, rfl⟩
  · decide
  · decide
  · decide
  · rw [Sample.run_acceptedSchema]

end TableScaffold
