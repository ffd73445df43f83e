import TableScaffold.Proofs.Config.EnvironmentText
import TableScaffold.Proofs.Files.Component
import TableScaffold.Proofs.Files.Growth
import TableScaffold.Proofs.Text.Letter
import TableScaffold.Proofs.Text.Utf8
import TableScaffold.Proofs.Toml.Integers
import TableScaffold.Proofs.Toml.Lenient

set_option autoImplicit false

/-!
# One file, read in two ways

A configuration file is read on its own, with every value of the type that its field takes, or as
one source among others, whose values are converted.  Both readers find the same bytes
(`Workspace.resolve_join_homePath`), the same text and the same entries, and entry by entry the
settings have for every field what the configuration holds (`Settings.Hold.assign`).  So both make
the same configuration, if all integers have 64 bits (`Config.load_eq_fromFile`): a setting holds
no others, also where no field asks for it.
-/

namespace TableScaffold

/-! ## The file in the working directory -/

namespace Path

variable {p dir : Path} {n : Text}

/-- A name in a path is a segment that is written as it is. -/
theorem ofSegment_of_mem (h : Component.name n ∈ components p) :
    Component.ofSegment n = .name n := by
  have hsegment {s : Text} (hs : Component.ofSegment s = .name n) :
      Component.ofSegment n = .name n := by
    by_cases hparent : s = ['.', '.']
    · rw [hparent] at hs
      cases hs
    · obtain rfl : s = n := Component.name.inj ((if_neg hparent).symm.trans hs)
      exact hs
  obtain ⟨first, later, hsegments⟩ := exists_segments_eq_cons p
  rw [components_eq hsegments, List.mem_append] at h
  rcases h with hfirst | hlater
  · unfold Component.ofFirst at hfirst
    split at hfirst
    · split at hfirst <;> simp at hfirst
    split at hfirst
    · simp at hfirst
    · exact hsegment (List.mem_singleton.mp hfirst).symm
  · obtain ⟨s, -, hs⟩ := List.mem_map.mp hlater
    exact hsegment hs

theorem fileName?_eq_some : fileName? p = some n ↔ (components p).getLast? = some (.name n) := by
  unfold fileName?
  split
  · next heq => rw [heq, Option.some.injEq, Option.some.injEq, Component.name.injEq]
  · next hother => exact ⟨nofun, fun h => absurd h (hother n)⟩

/-- A path has the same file name seen from elsewhere. -/
theorem fileName?_join (hdir : dir ≠ []) (h : fileName? p = some n) :
    fileName? (join dir p) = some n := by
  by_cases habsolute : isAbsolute p = true
  · rw [join, if_pos habsolute, h]
  have hrelative := eq_false_of_ne_true habsolute
  rw [fileName?_eq_some] at h ⊢
  obtain ⟨front, hfront⟩ := List.getLast?_eq_some_iff.mp h
  have hname : Component.ofSegment n = .name n := by
    refine ofSegment_of_mem (p := p) ?_
    rw [hfront]
    exact List.mem_append_right _ (.head _)
  rw [components_join_relative hdir hrelative, steps_eq, hfront, List.filterMap_append,
    List.map_append, ← List.append_assoc]
  change ((_ ++ _) ++ [Component.ofSegment n]).getLast? = _
  rw [List.getLast?_concat, hname]

theorem extension?_join (hdir : dir ≠ []) {e : Text} (h : extension? p = some e) :
    extension? (join dir p) = some e := by
  unfold extension? at h ⊢
  cases hname : fileName? p with
  | none =>
    rw [hname] at h
    cases h
  | some n =>
    rw [hname] at h
    rw [fileName?_join hdir hname]
    exact h

end Path

namespace Workspace

variable {w : Workspace} {p : Path} {place : Place} {bytes : ByteArray}

/-- A path leads to the same place seen from the working directory, unless it becomes too long. -/
theorem resolve_join_homePath (hhome : w.resolve w.homePath = .ok w.home)
    (hshort : Text.byteCount (Path.join w.homePath p) < maxPathBytes)
    (hp : w.resolve p = .ok place) : w.resolve (Path.join w.homePath p) = .ok place := by
  by_cases habsolute : p.isAbsolute = true
  · rw [Path.join, if_pos habsolute, hp]
  have hrelative := eq_false_of_ne_true habsolute
  obtain ⟨hfits, hsteps⟩ := resolve_eq_ok.mp hp
  obtain ⟨hfitsHome, hstepsHome⟩ := resolve_eq_ok.mp hhome
  rw [hrelative, if_neg Bool.false_ne_true] at hsteps
  have hdirectory : w.entryAt w.home = some .directory := by
    obtain ⟨first, later, hsegments⟩ := Path.exists_segments_eq_cons p
    rw [hsegments, List.foldlM_cons] at hsteps
    obtain ⟨_, hstep, -⟩ := bind_eq_ok.mp hsteps
    exact entryAt_of_step hstep
  have hinto : (Path.stepsInto w.homePath).foldlM w.step [] = .ok w.home := by
    refine foldlM_step_of_filter hdirectory ?_
    rw [Path.filter_stepsInto]
    exact foldlM_step_filter hstepsHome
  have hfitsJoin : Fits (Path.join w.homePath p) := by
    refine ⟨?_, ?_, hshort⟩
    · have hnul := hfits.not_nul
      have hnulHome := hfitsHome.not_nul
      rw [List.contains_eq_mem, decide_eq_false_iff_not] at hnul hnulHome ⊢
      rw [Path.join_of_relative hrelative]
      split <;> simp [hnul, hnulHome]
    · rw [Path.join_of_relative hrelative]
      split <;> rfl
  refine resolve_eq_ok.mpr ⟨hfitsJoin, ?_⟩
  rw [Path.segments_join _ hrelative, Path.isAbsolute_join hrelative, List.foldlM_append]
  exact bind_eq_ok.mpr ⟨w.home, hinto, hsteps⟩

end Workspace

/-! ## Reading the file -/

namespace Config

open Procedure

variable {path : Path} {w w' : Workspace} {c : Config} {bytes : ByteArray} {source : Text}
  {entries : Toml.Entries}

theorem exec_fromFile_eq_ok : exec (fromFile path : Procedure Workspace Config) w = (.ok c, w')
    ↔ w' = w ∧ ∃ source, (FileAccess.readText path : StateM Workspace _).run w = (.ok source, w)
      ∧ ofFileText path source = .ok c := by
  have hread : (FileAccess.readText path : StateM Workspace _).run w
      = ((w.readBytes path).bind FileAccess.textOfBytes, w) := rfl
  unfold fromFile
  rw [exec_bind, exec_lift, hread]
  rcases (w.readBytes path).bind FileAccess.textOfBytes with fault | source
  · refine ⟨nofun, ?_⟩
    rintro ⟨-, _, h, -⟩
    cases h
  · dsimp only
    constructor
    · intro h
      split at h
      · cases h
      · next hc =>
        cases h
        exact ⟨rfl, source, rfl, hc⟩
    · rintro ⟨rfl, _, h, hc⟩
      cases h
      rw [hc]
      rfl

end Config

/-! ## What the file sets -/

/-- A key of small letters, digits, dashes and underscores. -/
def IsLowerKey (key : Text) : Prop :=
  key ≠ [] ∧ ∀ c ∈ key, c.isLower = true ∨ c.isDigit = true ∨ c = '-' ∨ c = '_'

instance (key : Text) : Decidable (IsLowerKey key) :=
  inferInstanceAs (Decidable (_ ∧ ∀ c ∈ key, _))

/-- Such a key is a name as it stands. -/
theorem SettingPath.ofKey_of_isLowerKey {key : Text} (h : IsLowerKey key) :
    ofKey key = ⟨key, []⟩ := by
  obtain ⟨hne, hkey⟩ := h
  have hname : ∀ c ∈ key, isNameCharacter c = true := by
    intro c hc
    unfold isNameCharacter
    rcases hkey c hc with hlower | hdigit | rfl | rfl
    · simp [Char.isAlphanum, Text.isAlpha_iff.mpr (.inr hlower)]
    · simp [Char.isAlphanum, hdigit]
    · rfl
    · rfl
  have htake : key.takeWhile isNameCharacter = key := List.takeWhile_eq_self_iff.mpr hname
  have hdrop : key.dropWhile isNameCharacter = [] := List.dropWhile_eq_nil_iff.mpr hname
  have hpath : ofSpelling? key = some ⟨key, []⟩ := by
    unfold ofSpelling? name?
    rw [htake, hdrop, if_neg (by simpa using hne)]
    rfl
  rw [ofKey, hpath, Option.getD_some]

namespace Config

variable {path : Path} {source key : Text} {c c' : Config} {start : Nat} {v : Toml.Value}

/-- What an entry of a file does: it gives a field a value of its type, or is for no field. -/
theorem setFromFile_eq_ok (h : setFromFile path source c (key, start, v) = .ok c') :
    (∃ f : ConfigField, f.key = key
        ∧ ((f.type = .text ∧ ∃ t, v = .text t ∧ c' = f.setText t c)
          ∨ (f.type = .boolean ∧ ∃ b, v = .boolean b ∧ c' = f.setBoolean b c)))
      ∨ (∀ f : ConfigField, f.key ≠ key) ∧ v.unreadable? start = none ∧ c' = c := by
  unfold setFromFile at h
  dsimp only at h
  split at h
  · next hnone =>
    refine .inr ⟨fun f => ?_, ?_⟩
    · simpa using List.find?_eq_none.mp hnone f f.mem_all
    · split at h
      · next hreadable =>
        cases h
        exact ⟨hreadable, rfl⟩
      · cases h
  · next f hsome =>
    have hkey : f.key = key := by simpa using List.find?_some hsome
    refine .inl ⟨f, hkey, ?_⟩
    split at h
    · next htype =>
      cases h
      exact .inl ⟨htype, _, rfl, rfl⟩
    · next htype =>
      cases h
      exact .inr ⟨htype, _, rfl, rfl⟩
    · cases h

end Config

namespace Settings

/-- A configuration holds what settings have for its fields, each of which has a value of its
type there or none. -/
def Hold (settings : Settings) (c : Config) : Prop :=
  ∀ f : ConfigField, settings.lookup f.key = none ∧ f.value? c = f.value? {}
    ∨ (∃ origin t, f.type = .text ∧ settings.lookup f.key = some (.scalar origin (.text t))
      ∧ f.value? c = some (.text t))
    ∨ ∃ origin b, f.type = .boolean ∧ settings.lookup f.key = some (.scalar origin (.boolean b))
      ∧ f.value? c = some (.boolean b)

variable {settings below : Settings} {c c' : Config} {path : Path} {source origin key : Text}
  {start : Nat} {v : Toml.Value} {s : Setting}

/-- One more entry of a file, read in both ways. -/
theorem Hold.assign (h : Hold below c) (hkey : IsLowerKey key)
    (hfile : Config.setFromFile path source c (key, start, v) = .ok c')
    (hs : FileFormat.tomlSetting origin v = .ok s) : Hold (below.assign (.ofKey key) s) c' := by
  intro g
  rw [SettingPath.ofKey_of_isLowerKey hkey, lookup_assign]
  dsimp only
  rcases Config.setFromFile_eq_ok hfile with ⟨f, rfl, hvalue⟩ | ⟨hother, -, rfl⟩
  · by_cases hg : g = f
    · subst hg
      rw [if_pos rfl]
      rcases hvalue with ⟨htype, t, rfl, rfl⟩ | ⟨htype, b, rfl, rfl⟩
      · cases hs
        refine .inr (.inl ⟨origin, t, htype, rfl, ?_⟩)
        rw [ConfigField.value?_setText htype, if_pos rfl]
      · cases hs
        refine .inr (.inr ⟨origin, b, htype, rfl, ?_⟩)
        rw [ConfigField.value?_setBoolean htype, if_pos rfl]
    · have hsame : g.value? c' = g.value? c := by
        rcases hvalue with ⟨htype, t, -, rfl⟩ | ⟨htype, b, -, rfl⟩
        · rw [ConfigField.value?_setText htype, if_neg hg]
        · rw [ConfigField.value?_setBoolean htype, if_neg hg]
      rw [if_neg fun hkey => hg (ConfigField.key_inj hkey), hsame]
      exact h g
  · rw [if_neg (hother g)]
    exact h g

/-- All entries of a file, read in both ways. -/
theorem Hold.addSource {entries : Toml.Entries} {file : Settings} (h : Hold below c)
    (hkeys : ∀ e ∈ entries, IsLowerKey e.1)
    (hfile : entries.foldlM (Config.setFromFile path source) c = .ok c')
    (hsettings : FileFormat.tomlSettings origin entries = .ok file) :
    Hold (below.addSource file) c' := by
  induction entries generalizing below c file with
  | nil =>
    cases hfile
    cases hsettings
    exact h
  | cons e entries ih =>
    obtain ⟨key, start, v⟩ := e
    rw [List.forall_mem_cons] at hkeys
    rw [List.foldlM_cons] at hfile
    obtain ⟨c₁, hfirst, hrest⟩ := bind_eq_ok.mp hfile
    obtain ⟨s, hs, hbehind⟩ := bind_eq_ok.mp hsettings
    obtain ⟨more, hmore, hcons⟩ := bind_eq_ok.mp hbehind
    cases hcons
    change Hold ((below.assign (.ofKey key) s).addSource more) c'
    exact ih (h.assign hkeys.1 hfirst hs) hkeys.2 hrest hmore

/-- Settings make the configuration that holds what they have. -/
theorem Hold.toConfig (h : Hold settings c) : settings.toConfig = .ok c := by
  obtain ⟨c', hc'⟩ : ∃ c', settings.toConfig = .ok c' := by
    refine exists_toConfig fun f d => ?_
    unfold setField
    rcases h f with ⟨hnone, -⟩ | ⟨origin, t, htype, hlookup, -⟩ | ⟨origin, b, htype, hlookup, -⟩
    · rw [hnone]
      exact ⟨d, rfl⟩
    · rw [hlookup]
      dsimp only
      rw [setScalar, htype]
      exact ⟨_, rfl⟩
    · rw [hlookup]
      dsimp only
      rw [setScalar, htype]
      exact ⟨_, rfl⟩
  refine hc'.trans (congrArg _ (ConfigField.ext_value? fun f => ?_))
  obtain ⟨v, hv, hvalue⟩ := value?_of_toConfig hc' f
  rw [hvalue]
  rcases h f with ⟨hlookup, hf⟩ | ⟨origin, t, htype, hlookup, hf⟩ | ⟨origin, b, htype, hlookup, hf⟩
  · rw [hlookup] at hv
    rw [hv.unique .none, hf]
    rfl
  · rw [hlookup] at hv
    rw [hv.unique (.scalar origin _), hf, Option.map_some, ConfigField.reading, htype]
    rfl
  · rw [hlookup] at hv
    rw [hv.unique (.scalar origin _), hf, Option.map_some, ConfigField.reading, htype]
    rfl

end Settings

/-! ## Both ways -/

namespace Config

open Procedure

variable {path : Path} {source : Text} {c c' : Config} {entries : Toml.Entries}

/-- An accepted file has no number out of every range. -/
theorem unreadablePair?_eq_none (h : entries.foldlM (setFromFile path source) c = .ok c') :
    Toml.unreadablePair? entries = none := by
  induction entries generalizing c with
  | nil => rfl
  | cons e entries ih =>
    obtain ⟨key, start, v⟩ := e
    rw [List.foldlM_cons] at h
    obtain ⟨c₁, hfirst, hrest⟩ := bind_eq_ok.mp h
    have hv : v.unreadable? start = none := by
      rcases setFromFile_eq_ok hfirst with ⟨f, -, ⟨-, t, rfl, -⟩ | ⟨-, b, rfl, -⟩⟩ | ⟨-, hv, -⟩
      · rfl
      · rfl
      · exact hv
    exact Option.or_eq_none_iff.mpr ⟨hv, ih hrest⟩

/-- Without variables for the program, the environment sets nothing. -/
theorem settings_eq_nil {environment : Environment}
    (h : ∀ x ∈ environment, ¬ Environment.mark <+: Text.lowercase x.1) :
    environment.settings = [] := by
  refine List.filterMap_eq_nil_iff.mpr fun x hx => ?_
  unfold Environment.key?
  cases hdrop : Text.dropPrefix? Environment.mark (Text.lowercase x.1) with
  | none => rfl
  | some rest => exact absurd ⟨rest, (Text.dropPrefix?_eq_some.mp hdrop).symm⟩ (h x hx)

theorem hold_default : Settings.Hold [] {} := fun _ => .inl ⟨rfl, rfl⟩

/-- The settings of a file as one source are those of the entries that it has when it is read on
its own. -/
theorem run_sourceSettings [ForeignSettings] {w : Workspace}
    (hsource : (FileAccess.readText path : StateM Workspace _).run w = (.ok source, w))
    (hentries : Toml.parse .strict source = .ok entries)
    (hextension : Path.extension? path = some "toml".toList)
    (hhome : w.resolve w.homePath = .ok w.home)
    (hshort : Text.byteCount (Path.join w.homePath path) < Workspace.maxPathBytes) :
    ∃ origin, (sourceSettings (some path) : StateM Workspace _).run w
      = (FileFormat.tomlSettings origin entries, w) := by
  have hread : (w.readBytes path).bind FileAccess.textOfBytes = .ok source :=
    congrArg Prod.fst hsource
  obtain ⟨bytes, hbytes, htext⟩ := bind_eq_ok.mp hread
  obtain ⟨place, hplace, hentry⟩ := Workspace.readBytes_eq_ok.mp hbytes
  have hjoined : w.readBytes (Path.join w.homePath path) = .ok bytes :=
    Workspace.readBytes_eq_ok.mpr
      ⟨place, Workspace.resolve_join_homePath hhome hshort hplace, hentry⟩
  have hformat : (Path.extension? (Path.join w.homePath path)).bind FileFormat.ofExtension?
      = some .toml := by
    have hdir : w.homePath ≠ [] := List.cons_ne_nil _ _
    rw [Path.extension?_join hdir hextension]
    decide
  have hnames : w.Names path (Path.join w.homePath path) .toml := by
    obtain ⟨e, he, hformat⟩ := Option.bind_eq_some_iff.mp hformat
    exact .itself ⟨bytes, hjoined⟩ he (FileFormat.ofExtension?_eq_some.mp hformat)
  refine ⟨(Path.join w.homePath path).relativeTo w.homePath,
    (run_fileSettings hnames hjoined).trans ?_⟩
  rw [FileFormat.sourceText, Text.ofDamagedUtf8_of_textOfBytes htext, FileFormat.settings,
    Toml.parse_lenient (Toml.parse_dropMark hentries)]

/-- A file that is accepted on its own, with keys of small letters, is accepted as the one source
of a configuration exactly if all its integers have 64 bits, and makes the same configuration. -/
theorem load_eq_fromFile [ForeignSettings] {w : Workspace} {environment : Environment}
    (hsource : (FileAccess.readText path : StateM Workspace _).run w = (.ok source, w))
    (hentries : Toml.parse .strict source = .ok entries)
    (hfile : exec (fromFile path : Procedure Workspace Config) w = (.ok c, w))
    (hextension : Path.extension? path = some "toml".toList)
    (hkeys : ∀ e ∈ entries, IsLowerKey e.1)
    (hhome : w.resolve w.homePath = .ok w.home)
    (hshort : Text.byteCount (Path.join w.homePath path) < Workspace.maxPathBytes)
    (henvironment : ∀ x ∈ environment, ¬ Environment.mark <+: Text.lowercase x.1) (d : Config) :
    exec (load (some path) environment : Procedure Workspace Config) w = (.ok d, w)
      ↔ d = c ∧ ∀ n ∈ Toml.entryIntegers entries, n.Fits := by
  obtain ⟨-, source', hsource', hc⟩ := exec_fromFile_eq_ok.mp hfile
  rw [hsource] at hsource'
  obtain rfl : source = source' := Except.ok.inj (congrArg Prod.fst hsource')
  rw [ofFileText, hentries] at hc
  dsimp only at hc
  obtain ⟨origin, hsettings⟩ := run_sourceSettings hsource hentries hextension hhome hshort
  have hconfig {file : Settings} (hfile : FileFormat.tomlSettings origin entries = .ok file) :
      (Settings.addSource (Settings.addSource [] file) environment.settings).toConfig = .ok c := by
    rw [settings_eq_nil henvironment]
    exact (hold_default.addSource hkeys hc hfile).toConfig
  rw [exec_load_eq_ok, hsettings,
    ← Toml.exists_tomlSettings_iff origin entries (unreadablePair?_eq_none hc)]
  constructor
  · rintro ⟨file, hrun, hd⟩
    have hfile := congrArg Prod.fst hrun
    rw [hconfig hfile] at hd
    exact ⟨(Except.ok.inj hd).symm, file, hfile⟩
  · rintro ⟨rfl, file, hfile⟩
    exact ⟨file, congrArg (·, w) hfile, hconfig hfile⟩

end Config

/-! ## Files with unknown keys -/

namespace Sample

/-- A directory with one file in it. -/
def holding (name text : Text) : Workspace where
  entries := [([name], .file (FileAccess.bytesOfText text))]

/-- Two fields, and a dotted key and a table that no field asks for. -/
def manyKeys : Text :=
  ("extra.depth = 3\nformat_go = true\nschema_file = \"db/schema.sql\"\n"
    ++ "[table]\nlimits = [-9223372036854775808, 0x7f]\n").toList

end Sample

namespace Config

open Procedure

/-- A file with keys for two fields and others, among them the least integer of 64 bits. -/
theorem load_eq_fromFile_unknown :
    let path := "c.toml".toList
    let w := Sample.holding path Sample.manyKeys
    let c : Config := { schemaFile := "db/schema.sql".toList, formatGo := true }
    exec (fromFile path : Procedure Workspace Config) w = (.ok c, w)
      ∧ exec (load (some path) [("HOME".toList, "/".toList)] : Procedure Workspace Config) w
        = (.ok c, w) := by
  intro path w c
  have hread : ∃ entries ∈ (Toml.entriesInOrder (Toml.dropMark Sample.manyKeys).2).toOption,
      (Toml.sortedEntries entries).Pairwise (fun a b => (!(b.1 < a.1)) = true)
        ∧ (∀ e ∈ Toml.sortedEntries entries, IsLowerKey e.1)
        ∧ (∀ n ∈ Toml.entryIntegers (Toml.sortedEntries entries), n.Fits)
        ∧ (Toml.sortedEntries entries).foldlM (setFromFile path Sample.manyKeys) {} = .ok c := by
    decide +kernel
  obtain ⟨entries, hmem, hsorted, hkeys, hintegers, hc⟩ := hread
  have hentries := Toml.parse_of_sorted hmem hsorted
  have hbytes : (w.readBytes path).bind FileAccess.textOfBytes = .ok Sample.manyKeys := by
    decide +kernel
  have hsource : (FileAccess.readText path : StateM Workspace _).run w
      = (.ok Sample.manyKeys, w) :=
    congrArg (·, w) hbytes
  have hfile : exec (fromFile path : Procedure Workspace Config) w = (.ok c, w) := by
    refine exec_fromFile_eq_ok.mpr ⟨rfl, Sample.manyKeys, hsource, ?_⟩
    rw [ofFileText, hentries]
    exact hc
  exact ⟨hfile, (load_eq_fromFile hsource hentries hfile (by decide) hkeys (by decide)
    (by decide) (by decide) c).mpr ⟨rfl, hintegers⟩⟩

/-- An integer that no field asks for, and that has more than 64 bits, is accepted in a file on its
own only. -/
theorem not_load_eq_fromFile :
    let path := "c.toml".toList
    let w := Sample.holding path "z = 9223372036854775808\n".toList
    exec (fromFile path : Procedure Workspace Config) w = (.ok {}, w)
      ∧ exec (load (some path) [] : Procedure Workspace Config) w
        = (.error (.config (.unreadableNumber .tooLarge path)), w) := by
  decide +kernel

end Config

end TableScaffold
