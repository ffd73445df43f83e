import TableScaffold.Proofs.Config.Source

set_option autoImplicit false

/-!
# Layers of settings

A field is set by a file in what its text has under the key of the field (`Config.IsSource`), by the
environment in a variable that is named after it, or on the command line.  Where sources are laid
over each other, a field that is plain in the end has the last value of the last source that has
one for it (`Settings.plain_addSource`).  So the configuration that a command uses has in every
field what the highest layer sets it to, and depends in this field on nothing that is set elsewhere
(`CommandLine.run_eq_layers`).
-/

namespace TableScaffold

/-! ## What the layers set -/

namespace ConfigField

/-- The variable of a field. -/
def variableName (f : ConfigField) : Text := (Environment.mark ++ f.key).map Char.toUpper

/-- Whether a name is that of the variable of a field, in letters of any case. -/
def isVariable (f : ConfigField) (name : Text) : Bool :=
  Text.lowercase name = Text.lowercase f.variableName

theorem lowercase_variableName (f : ConfigField) :
    Text.lowercase f.variableName = Environment.mark ++ f.key := by
  have hall : ∀ f ∈ all, Text.lowercase f.variableName = Environment.mark ++ f.key := by decide
  exact hall f (mem_all f)

/-- No variable is that of two fields. -/
theorem eq_of_isVariable {f g : ConfigField} {name : Text} (hf : f.isVariable name = true)
    (hg : g.isVariable name = true) : f = g := by
  have h := (of_decide_eq_true hf).symm.trans (of_decide_eq_true hg)
  rw [lowercase_variableName, lowercase_variableName] at h
  exact key_inj (List.append_cancel_left h)

end ConfigField

namespace Environment

variable {f : ConfigField} {e : Environment}

/-- A text with no dot once underscores are read as dots has no two of them. -/
theorem dotted_eq_self {t : Text} (h : '.' ∉ dotted t) : dotted t = t := by
  fun_induction dotted t with
  | case1 r ih => exact absurd List.mem_cons_self h
  | case2 c r hne ih => rw [ih fun hmem => h (List.mem_cons_of_mem _ hmem)]
  | case3 => rfl

theorem key?_eq_key {name : Text} : key? name = some f.key ↔ f.isVariable name = true := by
  have hkey : '.' ∉ f.key ∧ dotted f.key = f.key := by
    have hall : ∀ f ∈ ConfigField.all, '.' ∉ f.key ∧ dotted f.key = f.key := by decide
    exact hall f (ConfigField.mem_all f)
  unfold key? ConfigField.isVariable
  rw [Option.map_eq_some_iff, decide_eq_true_eq, ConfigField.lowercase_variableName]
  constructor
  · rintro ⟨rest, hrest, hdotted⟩
    rw [Text.dropPrefix?_eq_some.mp hrest, ← hdotted, dotted_eq_self (hdotted ▸ hkey.1)]
  · intro h
    exact ⟨f.key, Text.dropPrefix?_eq_some.mpr h, hkey.2⟩

/-- What an environment sets a field to, if it does. -/
def sets (e : Environment) (f : ConfigField) : Option (Option FieldValue) :=
  (e.filter (f.isVariable ·.1)).getLast?.map fun v => f.reading (value v.2)

/-- A variable has its value under the key of a field if it is the variable of that field. -/
theorem scalarUnder_key (f : ConfigField) (v : Text × Text) :
    ((key? v.1).map fun key => (key, Setting.scalar origin (value v.2))).bind
        (Settings.scalarUnder f.key)
      = if f.isVariable v.1 then some (value v.2) else none := by
  cases hkey : key? v.1 with
  | none =>
    rw [if_neg]
    · rfl
    · rw [← key?_eq_key, hkey]
      nofun
  | some key =>
    by_cases heq : key = f.key
    · rw [if_pos (by rw [← key?_eq_key, hkey, heq])]
      exact if_pos heq
    · rw [if_neg]
      · exact if_neg heq
      · rw [← key?_eq_key, hkey]
        exact fun h => heq (Option.some.inj h)

/-- The values under the key of a field are those of its variable. -/
theorem filterMap_settings (f : ConfigField) (e : Environment) :
    e.settings.filterMap (Settings.scalarUnder f.key)
      = (e.filter (f.isVariable ·.1)).map (value ·.2) := by
  unfold settings
  rw [List.filterMap_filterMap, ← List.filterMap_eq_map, List.filterMap_filter]
  exact congrArg (List.filterMap · e) (funext (scalarUnder_key f))

theorem sets_settings (e : Environment) (f : ConfigField) : e.settings.sets f = e.sets f := by
  unfold Settings.sets Settings.last? sets
  rw [filterMap_settings, List.getLast?_map, Option.map_map]
  rfl

end Environment

/-- What a command line sets a field to, if it does.  A command for one kind sets the switches
of all kinds. -/
def CommandLine.Options.sets (o : Options) (f : ConfigField) : Option (Option FieldValue) :=
  match f with
  | .schemaFile => o.schema.map fun p => some (.text p)
  | .outputDir => o.output.map fun p => some (.text p)
  | .templateDir => o.templates.map fun p => some (.text p)
  | .dryRun => if o.dryRun then some (some (.boolean true)) else none
  | .enabled k =>
    match o.command with
    | some (.only kind) => some (some (.boolean (k = kind)))
    | _ => none
  | _ => none

/-! ## Loading -/

namespace Config

variable [ForeignSettings] {c : Config} {name : Option Path} {environment : Environment}
  {w : Workspace}

/-- A configuration is loaded from the settings of its file and the environment over them. -/
theorem exec_load_eq_ok {w' : Workspace} :
    Procedure.exec (load name environment : Procedure Workspace Config) w = (.ok c, w')
      ↔ ∃ file, (sourceSettings name : StateM Workspace _).run w = (.ok file, w')
        ∧ (Settings.addSource (Settings.addSource [] file) environment.settings).toConfig
          = .ok c := by
  unfold load
  rw [Procedure.exec_bind, Procedure.exec_lift]
  rcases (sourceSettings name : StateM Workspace _).run w with ⟨fault | file, w₁⟩
  · refine ⟨nofun, ?_⟩
    rintro ⟨_, h, -⟩
    cases h
  · dsimp only
    constructor
    · intro h
      refine ⟨file, ?_⟩
      split at h
      · cases h
      · next hc =>
        cases h
        exact ⟨rfl, hc⟩
    · rintro ⟨_, h, hc⟩
      cases h
      rw [hc]
      rfl

omit [ForeignSettings] in
/-- A field that is loaded has what the environment sets it to, or else the file, or else its
default. -/
theorem value?_of_load {file : Settings}
    (h : (Settings.addSource (Settings.addSource [] file) environment.settings).toConfig = .ok c)
    (f : ConfigField) :
    f.value? c = ((environment.sets f).or (file.sets f)).getD (f.value? {}) := by
  obtain ⟨v, hplain, hvalue⟩ := Settings.value?_of_toConfig h f
  rw [hvalue, Settings.plain_two_sources f.ofKey_key hplain, ← Environment.sets_settings]
  unfold Settings.sets
  rw [Option.map_or]

end Config

/-! ## The configuration that a command uses -/

namespace CommandLine

open Procedure

variable [GoFormatter] [Template.Engine] [ForeignSettings]
variable {o o' : Options} {c c' : Config} {environment environment' : Environment}
  {w w' : Workspace} {f g : ConfigField}

omit [GoFormatter] [Template.Engine] [ForeignSettings] in
theorem value?_override (o : Options) (c : Config) (f : ConfigField) :
    f.value? (o.override c) = (o.sets f).getD (f.value? c) := by
  obtain ⟨_, schema, output, templates, dryRun, command⟩ := o
  cases f with
  | schemaFile => cases schema <;> rcases command with _ | _ | _ | _ <;> rfl
  | outputDir => cases output <;> rcases command with _ | _ | _ | _ <;> rfl
  | templateDir => cases templates <;> rcases command with _ | _ | _ | _ <;> rfl
  | dryRun => cases dryRun <;> rcases command with _ | _ | _ | _ <;> rfl
  | enabled k =>
    rcases command with _ | _ | kind | _
    case some.only =>
      exact congrArg (fun on => some (FieldValue.boolean on)) (Config.isEnabled_only _ kind k)
    all_goals rfl
  | _ => rcases command with _ | _ | _ | _ <;> rfl

omit [GoFormatter] [Template.Engine] [ForeignSettings] in
/-- Every field that a program uses has what the highest layer sets it to, or its default. -/
theorem value?_of_layers {file : Settings}
    (h : (Settings.addSource (Settings.addSource [] file) environment.settings).toConfig = .ok c)
    (o : Options) (f : ConfigField) : f.value? (o.override c)
      = ([o.sets, environment.sets, file.sets].findSome? (· f)).getD (f.value? {}) := by
  rw [value?_override, Config.value?_of_load h]
  simp only [List.findSome?_cons, List.findSome?_nil]
  cases o.sets f <;> cases environment.sets f <;> cases file.sets f <;> rfl

/-- What a program does whose configuration can be loaded. -/
theorem run_of_load {words : List Text} (hwords : Options.parse words = .ok o)
    (hload : exec (Config.load o.config environment : Procedure Workspace Config) w = (.ok c, w)) :
    (run words environment : StateM Workspace Outcome).run w
      = (if o.command = some .inspect then inspect (o.override c) else generate (o.override c)
        : StateM Workspace Outcome).run w := by
  have hrun : (ExceptT.run (Config.load o.config environment) : StateM Workspace _).run w
      = (.ok c, w) := hload
  unfold run
  rw [hwords]
  dsimp only
  unfold perform
  rw [StateT.run_bind, hrun]
  rfl

/-- What two programs are given differs in what is said about one field, and in nothing
else. -/
structure SameBut (g : ConfigField) (o o' : Options) (environment environment' : Environment)
    (file file' : Settings) : Prop where
  options : ∀ f, f ≠ g → o.sets f = o'.sets f
  environment : environment.filter (!g.isVariable ·.1) = environment'.filter (!g.isVariable ·.1)
  file : file.filter (·.1 ≠ g.key) = file'.filter (·.1 ≠ g.key)

omit [GoFormatter] [Template.Engine] [ForeignSettings] in
/-- What an environment sets one field to does not depend on the variables of another. -/
theorem sets_environment_congr (hne : f ≠ g)
    (h : environment.filter (!g.isVariable ·.1) = environment'.filter (!g.isVariable ·.1)) :
    environment.sets f = environment'.sets f := by
  have hfilter (e : Environment) : (e.filter (!g.isVariable ·.1)).filter (f.isVariable ·.1)
      = e.filter (f.isVariable ·.1) := by
    rw [List.filter_filter]
    apply List.filter_congr
    intro v _
    cases hf : f.isVariable v.1 with
    | false => rfl
    | true =>
      have hg : g.isVariable v.1 = false := by
        rw [Bool.eq_false_iff]
        exact fun hg => hne (ConfigField.eq_of_isVariable hf hg)
      rw [hg]
      rfl
  unfold Environment.sets
  rw [← hfilter, h, hfilter]

omit [GoFormatter] [Template.Engine] [ForeignSettings] in
/-- What a file sets one field to does not depend on what is under another key. -/
theorem sets_file_congr {file file' : Settings} (hne : f ≠ g)
    (h : file.filter (·.1 ≠ g.key) = file'.filter (·.1 ≠ g.key)) : file.sets f = file'.sets f := by
  have hfilter (s : Settings) : (s.filter (·.1 ≠ g.key)).filterMap (Settings.scalarUnder f.key)
      = s.filterMap (Settings.scalarUnder f.key) := by
    rw [List.filterMap_filter]
    refine congrArg (List.filterMap · s) (funext fun e => ?_)
    by_cases heq : e.1 = g.key
    · have hother : e.1 ≠ f.key := fun h => hne (ConfigField.key_inj (h.symm.trans heq))
      rw [Settings.scalarUnder_of_ne hother, ite_self]
    · simp [heq]
  unfold Settings.sets Settings.last?
  rw [← hfilter, h, hfilter]

omit [GoFormatter] [Template.Engine] [ForeignSettings] in
/-- What is said about one field decides nothing about another. -/
theorem SameBut.findSome?_eq {file file' : Settings}
    (h : SameBut g o o' environment environment' file file') (hne : f ≠ g) :
    [o.sets, environment.sets, file.sets].findSome? (· f)
      = [o'.sets, environment'.sets, file'.sets].findSome? (· f) := by
  simp only [List.findSome?_cons, List.findSome?_nil]
  rw [h.options f hne, sets_environment_congr hne h.environment, sets_file_congr hne h.file]

/-- If the configuration can be loaded, the program uses one in which every field has what the
highest layer sets it to: the command line, the environment, the file, and then the default.  The
file is the one that is meant, and sets what its text has under the keys.  That is the only such
configuration, and a change to what is said about one field, in any of the layers, changes no other
field. -/
theorem run_eq_layers {words : List Text} (hwords : Options.parse words = .ok o)
    (hload : exec (Config.load o.config environment : Procedure Workspace Config) w = (.ok c, w')) :
    let used := o.override c
    w' = w
      ∧ (run words environment : StateM Workspace Outcome).run w
        = (if o.command = some .inspect then inspect used else generate used
          : StateM Workspace Outcome).run w
      ∧ ∃ file, (Config.sourceSettings o.config : StateM Workspace _).run w = (.ok file, w)
        ∧ Config.IsSource w o.config file
        ∧ (∀ f : ConfigField, f.value? used
          = ([o.sets, environment.sets, file.sets].findSome? (· f)).getD (f.value? {}))
        ∧ (∀ other : Config, (∀ f : ConfigField, f.value? other = f.value? used) → other = used)
        ∧ ∀ (o' : Options) (environment' : Environment) (v v' : Workspace) (file' : Settings)
          (c' : Config) (g : ConfigField),
          exec (Config.load o'.config environment' : Procedure Workspace Config) v = (.ok c', v') →
          (Config.sourceSettings o'.config : StateM Workspace _).run v = (.ok file', v') →
          SameBut g o o' environment environment' file file' →
          ∀ f : ConfigField, f ≠ g → f.value? (o'.override c') = f.value? used := by
  intro used
  have hkeep := (Config.keeps_load o.config environment).exec_eq w
  rw [hload] at hkeep
  obtain rfl : w' = w := congrArg Prod.snd hkeep
  obtain ⟨file, hfile, hc⟩ := Config.exec_load_eq_ok.mp hload
  refine ⟨rfl, run_of_load hwords hload, file, hfile, Config.isSource_of_run hfile,
    value?_of_layers hc o, ?_, ?_⟩
  · intro other
    exact ConfigField.ext_value?
  · intro o' environment' v v' file' c' g hload' hfile' hsame f hne
    obtain ⟨file'', hfile'', hc'⟩ := Config.exec_load_eq_ok.mp hload'
    rw [hfile''] at hfile'
    obtain rfl : file'' = file' := Except.ok.inj (congrArg Prod.fst hfile')
    rw [value?_of_layers hc', value?_of_layers hc, hsame.findSome?_eq hne]

end CommandLine

/-! ## Three layers -/

namespace Sample

/-- A file with values for four fields, one of which is not of the type of its field. -/
def fourFields : PlainFile where
  lines := [.remark " settings".toList, .pair "format_go".toList (.text "on".toList), .blank,
    .pair "go_module".toList (.text "file".toList), .pair "output_dir".toList (.text "file".toList),
    .pair "proto_package".toList (.text "file".toList)]
  plain := by decide
  distinct := by decide

/-- A directory with a file of settings. -/
def configured : Workspace where
  entries := [(["crudgen.toml".toList], .file (FileAccess.bytesOfText fourFields.written))]

/-- Variables for two fields that the file sets, too. -/
def surroundings : Environment :=
  [("CRUDGEN_OUTPUT_DIR".toList, "variable".toList), ("Crudgen_Go_Module".toList, "007".toList),
    ("CRUDGEN_DRY_RUN__".toList, "x".toList)]

def commandWords : List Text := ["--output".toList, "word".toList, "handlers".toList]

def commandOptions : CommandLine.Options :=
  { output := some "word".toList, command := some (.only .handler) }

def loaded : Config :=
  { outputDir := "variable".toList, goModule := "7".toList, protoPackage := "file".toList,
    formatGo := true }

theorem readBytes_configured : configured.readBytes "/crudgen.toml".toList
    = .ok (FileAccess.bytesOfText fourFields.written) := by
  decide

/-- The configuration file is the one in TOML. -/
theorem names_configured :
    configured.Names "crudgen".toList "/crudgen.toml".toList .toml := by
  have hnone : ¬ configured.IsFile "/crudgen".toList := by decide
  have hfirst : FileFormat.endings = [] ++ ("toml".toList, .toml) :: FileFormat.endings.tail := rfl
  exact .extended hnone hfirst nofun ⟨_, readBytes_configured⟩

theorem sortByKey_fourFields :
    Toml.sortByKey (Toml.sortedEntries fourFields.entries) = fourFields.entries := by
  rw [PlainFile.sortedEntries_entries]
  exact List.mergeSort_of_pairwise (by decide)

theorem exec_load_configured :
    Procedure.exec (Config.load none surroundings : Procedure Workspace Config) configured
      = (.ok loaded, configured) := by
  obtain ⟨file, hfile, hconfig⟩ : ∃ file,
      FileFormat.tomlSettings "crudgen.toml".toList fourFields.entries = .ok file
        ∧ (Settings.addSource (Settings.addSource [] file) surroundings.settings).toConfig
          = .ok loaded :=
    ⟨_, rfl, by decide +kernel⟩
  have hsource : (Config.sourceSettings none : StateM Workspace _).run configured = _ :=
    Config.run_sourceSettings_of_names names_configured readBytes_configured
  rw [FileFormat.sourceText_bytesOfText, FileFormat.settings, PlainFile.parse_written,
    sortByKey_fourFields] at hsource
  exact Config.exec_load_eq_ok.mpr ⟨file, hsource.trans (congrArg (·, _) hfile), hconfig⟩

end Sample

theorem CommandLine.run_eq_layers_sample :
    Options.parse Sample.commandWords = .ok Sample.commandOptions
      ∧ Procedure.exec (Config.load none Sample.surroundings : Procedure Workspace Config)
        Sample.configured = (.ok Sample.loaded, Sample.configured)
      ∧ (run Sample.commandWords Sample.surroundings : StateM Workspace Outcome).run
          Sample.configured
        = (generate (Sample.commandOptions.override Sample.loaded)
          : StateM Workspace Outcome).run Sample.configured
      ∧ (∃ file, (Config.sourceSettings none : StateM Workspace _).run Sample.configured
          = (.ok file, Sample.configured)
        ∧ Config.IsSource Sample.configured none file
        ∧ ∀ f : ConfigField, f.value? (Sample.commandOptions.override Sample.loaded)
          = ([Sample.commandOptions.sets, Sample.surroundings.sets, file.sets].findSome?
              (· f)).getD (f.value? {}))
      ∧ [ConfigField.outputDir, .goModule, .protoPackage, .excludeTables].map
          (·.value? (Sample.commandOptions.override Sample.loaded))
        = ["word", "7", "file", ""].map fun t => some (.text t.toList) := by
  have hwords : Options.parse Sample.commandWords = .ok Sample.commandOptions := by decide
  have hload := Sample.exec_load_configured
  obtain ⟨-, hrun, file, hfile, hmeant, hlayers, -⟩ := run_eq_layers hwords hload
  exact ⟨hwords, hload, hrun, ⟨file, hfile, hmeant, hlayers⟩, by decide⟩

end TableScaffold
