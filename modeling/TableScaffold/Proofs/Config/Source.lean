import TableScaffold.Config.Load
import TableScaffold.Proofs.CommandLine.Reading
import TableScaffold.Proofs.Files.Growth
import TableScaffold.Proofs.Text.Utf8
import TableScaffold.Proofs.Toml.PlainFile

set_option autoImplicit false

/-!
# The file of a configuration

A name stands for the file of that name, or else for the first one that is there with an extension
behind it (`Workspace.Names`).  What the file sets a field to is what its text has under the key of
the field (`FileFormat.Tells`).  If no file is named, and there is none under the usual name,
nothing is set (`Config.IsSource`).
-/

namespace TableScaffold

/-! ## Which file is meant -/

/-- The extensions of files of settings, in the order in which they are tried. -/
def FileFormat.endings : List (Text × FileFormat) :=
  [("toml".toList, .toml), ("json".toList, .json), ("yaml".toList, .foreign .yaml),
    ("yml".toList, .foreign .yaml), ("ini".toList, .foreign .ini), ("ron".toList, .foreign .ron),
    ("json5".toList, .foreign .json5)]

theorem FileFormat.ofExtension?_eq_some {e : Text} {format : FileFormat} :
    ofExtension? e = some format ↔ (e, format) ∈ endings := by
  constructor
  · intro h
    have hmem := List.find?_some h
    rw [List.contains_eq_mem, decide_eq_true_eq] at hmem
    have hall : ∀ format ∈ all, ∀ e ∈ format.extensions, (e, format) ∈ endings := by decide
    exact hall format (List.mem_of_find?_eq_some h) e hmem
  · have hall : ∀ p ∈ endings, ofExtension? p.1 = some p.2 := by decide
    exact hall (e, format)

namespace Workspace

variable {w : Workspace} {p name : Path} {bytes : ByteArray}

/-- The path of the working directory. -/
def homePath (w : Workspace) : Path := '/' :: Text.join ['/'] w.home

/-- Whether there is a file. -/
def IsFile (w : Workspace) (p : Path) : Prop := ∃ bytes, w.readBytes p = .ok bytes

/-- A name stands for a file of a format: for the one of that name, if there is one, or for the
first one that is there with an extension behind the name. -/
inductive Names (w : Workspace) (name : Path) : Path → FileFormat → Prop
  | itself {e : Text} {format : FileFormat} (there : w.IsFile (Path.join w.homePath name))
      (extension : Path.extension? (Path.join w.homePath name) = some e)
      (format_of : (e, format) ∈ FileFormat.endings) :
      Names w name (Path.join w.homePath name) format
  | extended {e : Text} {format : FileFormat} {before after : List (Text × FileFormat)}
      (none_there : ¬ w.IsFile (Path.join w.homePath name))
      (order : FileFormat.endings = before ++ (e, format) :: after)
      (none_before : ∀ b ∈ before, ¬ w.IsFile ((Path.join w.homePath name).addExtension b.1))
      (there : w.IsFile ((Path.join w.homePath name).addExtension e)) :
      Names w name ((Path.join w.homePath name).addExtension e) format

theorem find?_of_readBytes (h : w.readBytes p = .ok bytes) : w.find? p = some (.file bytes) := by
  obtain ⟨place, hplace, hentry⟩ := readBytes_eq_ok.mp h
  rw [find?, hplace]
  exact hentry

theorem isFile_iff : w.IsFile p
    ↔ ((w.find? p).isSome && !decide (w.find? p = some .directory)) = true := by
  constructor
  · rintro ⟨bytes, h⟩
    rw [find?_of_readBytes h]
    rfl
  · intro h
    unfold find? at h
    cases hplace : w.resolve p with
    | error fault =>
      rw [hplace] at h
      cases h
    | ok place =>
      rw [hplace] at h
      dsimp only at h
      rcases hentry : w.entryAt place with _ | bytes | _
      · simp [hentry] at h
      · exact ⟨bytes, readBytes_eq_ok.mpr ⟨place, hplace, hentry⟩⟩
      · simp [hentry] at h

instance : Decidable (w.IsFile p) := decidable_of_iff _ isFile_iff.symm

theorem Names.isFile {path : Path} {format : FileFormat} (h : w.Names name path format) :
    w.IsFile path := by
  cases h with
  | itself there => exact there
  | extended _ _ _ there => exact there

end Workspace

namespace Config

variable {w : Workspace} {name path : Path} {format : FileFormat}

theorem run_bind_of_run {σ α β : Type} {x : StateM σ α} {f : α → StateM σ β} {s s' : σ} {a : α}
    (h : x.run s = (a, s')) : (x >>= f).run s = (f a).run s' := by
  rw [StateT.run_bind, h]
  rfl

theorem run_isFile (p : Path) : (isFile p : StateM Workspace _).run w
    = (decide (w.IsFile p), w) := by
  have hfile : (isFile p : StateM Workspace _).run w
      = ((w.find? p).isSome && !decide (w.find? p = some .directory), w) := rfl
  rw [hfile, Bool.eq_iff_iff.mpr (Workspace.isFile_iff.symm.trans decide_eq_true_iff.symm)]

theorem run_firstFile (candidates : List (Path × FileFormat)) :
    (firstFile candidates : StateM Workspace _).run w
      = (candidates.find? fun c => decide (w.IsFile c.1), w) := by
  induction candidates with
  | nil => rfl
  | cons c candidates ih =>
    refine (run_bind_of_run (run_isFile c.1)).trans ?_
    rw [List.find?_cons]
    by_cases hthere : w.IsFile c.1
    · simp only [hthere, decide_true, if_true]
      rfl
    · simp only [hthere, decide_false, Bool.false_eq_true, if_false]
      exact ih

/-- The candidates behind a name, in the order in which they are tried. -/
theorem run_findFile (name : Path) : (findFile name : StateM Workspace _).run w
    = (if w.IsFile (Path.join w.homePath name) then
        match (Path.extension? (Path.join w.homePath name)).bind FileFormat.ofExtension? with
        | some format => .ok (Path.join w.homePath name, format)
        | none => .error (.unknownFormat (Path.join w.homePath name))
      else
        match FileFormat.endings.find? fun e =>
          decide (w.IsFile ((Path.join w.homePath name).addExtension e.1)) with
        | some e => .ok ((Path.join w.homePath name).addExtension e.1, e.2)
        | none => .error (.missingFile name), w) := by
  have hhome : (FileAccess.workingDirectory : StateM Workspace Path).run w = (w.homePath, w) := rfl
  refine (run_bind_of_run hhome).trans ((run_bind_of_run (run_isFile _)).trans ?_)
  by_cases hthere : w.IsFile (Path.join w.homePath name)
  · simp only [hthere, decide_true, if_true]
    cases (Path.extension? (Path.join w.homePath name)).bind FileFormat.ofExtension? <;> rfl
  · simp only [hthere, decide_false, Bool.false_eq_true, if_false]
    refine (run_bind_of_run (run_firstFile _)).trans ?_
    have hcandidates : (FileFormat.all.flatMap fun f => f.extensions.map fun extension =>
        ((Path.join w.homePath name).addExtension extension, f))
        = FileFormat.endings.map fun e => ((Path.join w.homePath name).addExtension e.1, e.2) := rfl
    rw [hcandidates, List.find?_map, Function.comp_def]
    cases FileFormat.endings.find? fun e =>
      decide (w.IsFile ((Path.join w.homePath name).addExtension e.1)) <;> rfl

/-- The search for a file finds the one that its name stands for. -/
theorem run_findFile_eq_ok : (findFile name : StateM Workspace _).run w = (.ok (path, format), w)
    ↔ w.Names name path format := by
  rw [run_findFile, Prod.mk.injEq, eq_self, and_true]
  by_cases hthere : w.IsFile (Path.join w.homePath name)
  · rw [if_pos hthere]
    constructor
    · intro h
      split at h
      · next format' hformat =>
        cases h
        obtain ⟨e, hextension, he⟩ := Option.bind_eq_some_iff.mp hformat
        exact .itself hthere hextension (FileFormat.ofExtension?_eq_some.mp he)
      · cases h
    · intro h
      cases h with
      | itself there extension format_of =>
        rw [extension, Option.bind_some, FileFormat.ofExtension?_eq_some.mpr format_of]
      | extended none_there => exact absurd hthere none_there
  · rw [if_neg hthere]
    constructor
    · intro h
      split at h
      · next e he =>
        cases h
        obtain ⟨hfile, before, after, horder, hbefore⟩ := List.find?_eq_some_iff_append.mp he
        refine .extended hthere horder (fun b hb => ?_) (of_decide_eq_true hfile)
        simpa using hbefore b hb
      · cases h
    · intro h
      cases h with
      | itself there => exact absurd there hthere
      | @extended e _ before after none_there order none_before there =>
        have hfound : FileFormat.endings.find? (fun e =>
            decide (w.IsFile ((Path.join w.homePath name).addExtension e.1)))
            = some (e, format) := by
          refine List.find?_eq_some_iff_append.mpr
            ⟨decide_eq_true there, before, after, order, fun b hb => ?_⟩
          simpa using none_before b hb
        rw [hfound]

end Config

/-! ## What the file tells -/

/-- What a value is in settings, unless it is a list or an object. -/
def Json.Value.scalar? : Json.Value → Option SettingScalar
  | .null => some .absent
  | .boolean b => some (.boolean b)
  | .integer n => some (.integer n)
  | .float x => some (.float x)
  | .text t => some (.text t)
  | _ => none

namespace FileFormat

variable [ForeignSettings] {format : FileFormat} {origin : Text} {bytes : ByteArray}
  {file : Settings}

/-- A file sets every field to what its text has under the key of the field.  Of a file that is
plain, that is what is written behind the key.  What a format has that is not read here is up to
its reader. -/
def Tells (format : FileFormat) (bytes : ByteArray) (file : Settings) : Prop :=
  match format with
  | .toml =>
    (∃ entries, Toml.parse .lenient (sourceText bytes) = .ok entries
      ∧ ∀ f : ConfigField,
        file.sets f = ((entries.lookup f.key).bind (·.2.scalar?)).map f.reading)
      ∧ ∀ plain : PlainFile, bytes = FileAccess.bytesOfText plain.written →
        ∀ f : ConfigField, file.sets f = (plain.values.lookup f.key).map (f.reading ·.inSettings)
  | .json => ∃ pairs, Json.parse (sourceText bytes) = .ok (.object pairs)
      ∧ ∀ f : ConfigField, file.sets f
        = (pairs.filterMap fun p => if p.1 = f.key then p.2.scalar? else none).getLast?.map
          f.reading
  | .foreign format => ∃ origin, ForeignSettings.read format origin (sourceText bytes) = .ok file

omit [ForeignSettings] in
/-- The settings of an object have the values under its keys, in order. -/
theorem filterMap_jsonSettings (origin : Text) (pairs : List (Text × Json.Value)) (key : Text) :
    (jsonSettings origin pairs).filterMap (Settings.scalarUnder key)
      = pairs.filterMap fun p => if p.1 = key then p.2.scalar? else none := by
  induction pairs with
  | nil => rfl
  | cons pair pairs ih =>
    obtain ⟨name, v⟩ := pair
    have hvalue : Settings.scalarUnder key (name, jsonSetting origin v)
        = if name = key then v.scalar? else none := by
      cases v with
      | list items => exact (ite_self none).symm
      | object pairs => exact (ite_self none).symm
      | _ => rfl
    rw [jsonSettings, List.filterMap_cons, List.filterMap_cons, hvalue, ih]

omit [ForeignSettings] in
/-- The text of a plain file is read back from its bytes. -/
theorem sourceText_bytesOfText (plain : PlainFile) :
    sourceText (FileAccess.bytesOfText plain.written) = plain.written := by
  rw [sourceText, Text.ofDamagedUtf8_of_textOfBytes (Text.textOfBytes_bytesOfText _),
    plain.dropMark_written]

/-- The settings of a file have what its text says. -/
theorem tells_of_settings (h : format.settings origin (sourceText bytes) = .ok file) :
    format.Tells bytes file := by
  cases format with
  | toml =>
    refine ⟨?_, ?_⟩
    · unfold settings at h
      dsimp only at h
      split at h
      · next entries hentries =>
        refine ⟨entries, hentries, fun f => ?_⟩
        rw [Settings.sets, last?_of_tomlSettings h (Toml.nodup_of_parse hentries)]
      · cases h
    · rintro plain rfl f
      rw [sourceText_bytesOfText] at h
      exact PlainFile.sets_of_settings h f
  | json =>
    unfold settings at h
    dsimp only at h
    split at h
    · next pairs hpairs =>
      cases h
      refine ⟨pairs, hpairs, fun f => ?_⟩
      rw [Settings.sets, Settings.last?, filterMap_jsonSettings]
    · cases h
    · cases h
  | foreign format => exact ⟨origin, h⟩

end FileFormat

namespace Config

variable [ForeignSettings] {w : Workspace} {name path : Path} {format : FileFormat}
  {bytes : ByteArray} {file : Settings}

/-- The settings come from the file that is named, or that has the usual name; only if none is named
there may be no such file. -/
inductive IsSource (w : Workspace) : Option Path → Settings → Prop
  | file {name : Option Path} {path : Path} {format : FileFormat} {bytes : ByteArray}
      {settings : Settings} (named : w.Names (name.getD "crudgen".toList) path format)
      (holds : w.readBytes path = .ok bytes) (content : format.Tells bytes settings) :
      IsSource w name settings
  | absent (unnamed : ∀ path format, ¬ w.Names "crudgen".toList path format) : IsSource w none []

/-- The settings of the file that a name stands for. -/
theorem run_fileSettings (hnames : w.Names name path format)
    (hbytes : w.readBytes path = .ok bytes) :
    (fileSettings name : StateM Workspace _).run w
      = (format.settings (path.relativeTo w.homePath) (FileFormat.sourceText bytes), w) := by
  have hhome : (FileAccess.workingDirectory : StateM Workspace Path).run w = (w.homePath, w) := rfl
  have hread : (FileAccess.readBytes path : StateM Workspace _).run w = (.ok bytes, w) :=
    congrArg (·, w) hbytes
  refine (run_bind_of_run (run_findFile_eq_ok.mpr hnames)).trans ((run_bind_of_run hread).trans ?_)
  exact (run_bind_of_run hhome).trans rfl

/-- The settings of the file that is named or that has the usual name. -/
theorem run_sourceSettings_of_names {given : Option Path}
    (hnames : w.Names (given.getD defaultFile) path format)
    (hbytes : w.readBytes path = .ok bytes) :
    (sourceSettings given : StateM Workspace _).run w
      = (format.settings (path.relativeTo w.homePath) (FileFormat.sourceText bytes), w) := by
  cases given with
  | some name => exact run_fileSettings hnames hbytes
  | none =>
    refine (run_bind_of_run (run_findFile_eq_ok.mpr hnames)).trans ?_
    exact run_fileSettings hnames hbytes

theorem isSource_of_fileSettings {given : Option Path}
    (h : (fileSettings (given.getD defaultFile) : StateM Workspace _).run w = (.ok file, w)) :
    IsSource w given file := by
  have hkeep := keeps_findFile (given.getD defaultFile) w
  rcases hfound : (findFile (given.getD defaultFile) : StateM Workspace _).run w
    with ⟨fault | ⟨path, format⟩, w'⟩
  · rw [fileSettings, run_bind_of_run hfound] at h
    cases h
  · rw [hfound] at hkeep
    obtain rfl : w' = w := hkeep
    have hnames := run_findFile_eq_ok.mp hfound
    obtain ⟨bytes, hbytes⟩ := hnames.isFile
    rw [run_fileSettings hnames hbytes] at h
    exact .file hnames hbytes (FileFormat.tells_of_settings (congrArg Prod.fst h))

/-- The settings that are read are those of the file that is meant. -/
theorem isSource_of_run {given : Option Path}
    (h : (sourceSettings given : StateM Workspace _).run w = (.ok file, w)) :
    IsSource w given file := by
  cases given with
  | some name => exact isSource_of_fileSettings h
  | none =>
    have hkeep := keeps_findFile defaultFile w
    rcases hfound : (findFile defaultFile : StateM Workspace _).run w with ⟨fault | found, w'⟩
    · rw [hfound] at hkeep
      obtain rfl : w' = w := hkeep
      rw [sourceSettings, run_bind_of_run hfound] at h
      cases h
      refine .absent fun path format hnames => ?_
      have hfile : (findFile defaultFile : StateM Workspace _).run w' = (.ok (path, format), w') :=
        run_findFile_eq_ok.mpr hnames
      rw [hfound] at hfile
      cases hfile
    · rw [hfound] at hkeep
      obtain rfl : w' = w := hkeep
      rw [sourceSettings, run_bind_of_run hfound] at h
      exact isSource_of_fileSettings h

end Config

end TableScaffold
