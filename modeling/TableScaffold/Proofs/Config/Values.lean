import TableScaffold.Config.Setting
import TableScaffold.Proofs.Result

set_option autoImplicit false

/-!
# What fields hold

A field of a configuration holds a text or a truth value, or nothing, and a configuration is
what its fields hold (`ext_value?`).  Setting a field leaves all others as they are
(`value?_setText`, `value?_setBoolean`).  When settings make a configuration of the defaults,
every field that they have a value for holds what that value reads as, and every other one its
default (`value?_of_toConfig`).
-/

namespace TableScaffold

/-- What a field holds. -/
inductive FieldValue where
  | text (t : Text)
  | boolean (b : Bool)
  deriving DecidableEq, Repr

/-- The integers that a setting can hold: those of 64 bits. -/
def SettingScalar.Fits (n : Int) : Prop := -Int.pow 2 63 ≤ n ∧ n < Int.pow 2 63

instance (n : Int) : Decidable (SettingScalar.Fits n) := inferInstanceAs (Decidable (_ ∧ _))

theorem PerKind.ext_get {α : Type} {v v' : PerKind α} (h : ∀ k, v.get k = v'.get k) : v = v' := by
  obtain ⟨_, _, _, _⟩ := v
  obtain ⟨_, _, _, _⟩ := v'
  rw [PerKind.mk.injEq]
  exact ⟨h .proto, h .handler, h .service, h .repository⟩

namespace ConfigField

/-- What a field holds in a configuration, if it holds something. -/
def value? (f : ConfigField) (c : Config) : Option FieldValue :=
  match f with
  | schemaFile => some (.text c.schemaFile)
  | outputDir => some (.text c.outputDir)
  | directory k => (c.directories.get k).map .text
  | templateDir => c.templateDir.map .text
  | includeTables => some (.text c.includeTables)
  | excludeTables => some (.text c.excludeTables)
  | enabled k => some (.boolean (c.isEnabled k))
  | goModule => some (.text c.goModule)
  | protoPackage => some (.text c.protoPackage)
  | formatGo => some (.boolean c.formatGo)
  | dryRun => some (.boolean c.dryRun)
  | logLevel => c.logLevel.map .text

/-- What a field holds that a value is put in: its text or its truth value, or nothing. -/
def reading (f : ConfigField) (v : SettingScalar) : Option FieldValue :=
  match f.type with
  | .text => v.toText?.map .text
  | .boolean => v.toBoolean.toOption.map .boolean

variable {f g : ConfigField} {c c' : Config}

/-! ## One field at a time -/

theorem value?_setText (h : f.type = .text) (t : Text) (c : Config) (g : ConfigField) :
    g.value? (f.setText t c) = if g = f then some (.text t) else g.value? c := by
  cases f with
  | enabled k => cases h
  | formatGo => cases h
  | dryRun => cases h
  | directory k =>
    cases g with
    | directory k' =>
      by_cases hk : k' = k <;> simp [value?, setText, Config.setDirectory, hk]
    | _ => rfl
  | _ => cases g <;> rfl

theorem value?_setBoolean (h : f.type = .boolean) (b : Bool) (c : Config) (g : ConfigField) :
    g.value? (f.setBoolean b c) = if g = f then some (.boolean b) else g.value? c := by
  cases f with
  | enabled k =>
    cases g with
    | enabled k' =>
      by_cases hk : k' = k <;> simp [value?, setBoolean, hk]
    | _ => rfl
  | formatGo => cases g <;> rfl
  | dryRun => cases g <;> rfl
  | _ => cases h

/-- A configuration is what its fields hold. -/
theorem ext_value? (h : ∀ f : ConfigField, f.value? c = f.value? c') : c = c' := by
  have htext {f : ConfigField} {t t' : Text} (ht : f.value? c = some (.text t))
      (ht' : f.value? c' = some (.text t')) : t = t' := by
    rw [h f, ht'] at ht
    exact (FieldValue.text.inj (Option.some.inj ht)).symm
  have hboolean {f : ConfigField} {b b' : Bool} (hb : f.value? c = some (.boolean b))
      (hb' : f.value? c' = some (.boolean b')) : b = b' := by
    rw [h f, hb'] at hb
    exact (FieldValue.boolean.inj (Option.some.inj hb)).symm
  have hoptional {f : ConfigField} {t t' : Option Text} (ht : f.value? c = t.map .text)
      (ht' : f.value? c' = t'.map .text) : t = t' := by
    rw [h f, ht'] at ht
    exact (Option.map_injective (fun _ _ => FieldValue.text.inj) ht).symm
  have hdirectories : c.directories = c'.directories :=
    PerKind.ext_get fun k => hoptional (f := directory k) rfl rfl
  have henabled : c.enabled = c'.enabled :=
    PerKind.ext_get fun k => hboolean (f := enabled k) rfl rfl
  obtain ⟨_, _, _, _, _, _, _, _, _, _, _, _⟩ := c
  obtain ⟨_, _, _, _, _, _, _, _, _, _, _, _⟩ := c'
  rw [Config.mk.injEq]
  exact ⟨htext (f := schemaFile) rfl rfl, htext (f := outputDir) rfl rfl, hdirectories,
    hoptional (f := templateDir) rfl rfl, htext (f := includeTables) rfl rfl,
    htext (f := excludeTables) rfl rfl, henabled, htext (f := goModule) rfl rfl,
    htext (f := protoPackage) rfl rfl, hboolean (f := formatGo) rfl rfl,
    hboolean (f := dryRun) rfl rfl, hoptional (f := logLevel) rfl rfl⟩

/-- A field that may be without a value has none at first. -/
theorem value?_of_isOptional (h : f.isOptional = true) : f.value? {} = none := by
  cases f with
  | directory k => cases k <;> rfl
  | templateDir => rfl
  | logLevel => rfl
  | _ => cases h

theorem type_of_isOptional (h : f.isOptional = true) : f.type = .text := by
  cases f with
  | directory k => rfl
  | templateDir => rfl
  | logLevel => rfl
  | _ => cases h

/-- Two fields have two keys. -/
theorem key_inj (h : f.key = g.key) : f = g := by
  have hall : ∀ f ∈ all, ∀ g ∈ all, f.key = g.key → f = g := by decide
  exact hall f (mem_all f) g (mem_all g) h

end ConfigField

/-! ## Fields and settings -/

namespace Settings

open ConfigField

/-- What is under a key is neither a list nor a map, and has a value if it is there. -/
inductive Plain : Option Setting → Option SettingScalar → Prop where
  | none : Plain none none
  | scalar (origin : Text) (v : SettingScalar) : Plain (some (.scalar origin v)) (some v)

variable {f : ConfigField} {c c' : Config} {settings : Settings}

/-- A field that takes a value holds what it reads as, and the others hold what they held. -/
theorem value?_of_setScalar {origin : Text} {v : SettingScalar}
    (h : setScalar f origin v c = .ok c') (hfirst : f.isOptional = true → f.value? c = none)
    (g : ConfigField) : g.value? c' = if g = f then f.reading v else g.value? c := by
  unfold setScalar at h
  split at h
  · next habsent =>
    obtain ⟨hv, hoptional⟩ : v = .absent ∧ f.isOptional = true := by simpa using habsent
    cases h
    have hreading : f.reading v = none := by
      rw [reading, type_of_isOptional hoptional, hv]
      rfl
    split
    · next hg => rw [hg, hreading, hfirst hoptional]
    · rfl
  · split at h
    · next htype =>
      split at h
      · next t ht =>
        cases h
        rw [value?_setText htype, reading, htype, ht]
        rfl
      · cases h
    · next htype =>
      split at h
      · next b hb =>
        cases h
        rw [value?_setBoolean htype, reading, htype, hb]
        rfl
      · cases h

/-- A field that is taken from settings is plain in them. -/
theorem value?_of_setField (h : settings.setField c f = .ok c')
    (hfirst : f.isOptional = true → f.value? c = none) : ∃ v, Plain (settings.lookup f.key) v
      ∧ ∀ g : ConfigField, g.value? c' = if g = f then (v.map f.reading).getD (f.value? c)
        else g.value? c := by
  unfold setField at h
  split at h
  · next hnone =>
    cases h
    refine ⟨none, by rw [hnone]; exact .none, ?_⟩
    intro g
    split
    · next hg => rw [hg]; rfl
    · rfl
  · next origin v hscalar =>
    exact ⟨some v, by rw [hscalar]; exact .scalar origin v, value?_of_setScalar h hfirst⟩
  · cases h
  · cases h

/-- Fields that are taken from settings one after the other. -/
theorem value?_of_foldlM_setField {fs : List ConfigField} (hfs : fs.Nodup)
    (h : fs.foldlM settings.setField c = .ok c')
    (hfirst : ∀ f ∈ fs, f.isOptional = true → f.value? c = none) (g : ConfigField) :
    (g ∈ fs → ∃ v, Plain (settings.lookup g.key) v
      ∧ g.value? c' = (v.map g.reading).getD (g.value? c))
    ∧ (g ∉ fs → g.value? c' = g.value? c) := by
  induction fs generalizing c with
  | nil =>
    cases h
    exact ⟨nofun, fun _ => rfl⟩
  | cons f fs ih =>
    obtain ⟨hf, hfs⟩ := List.nodup_cons.mp hfs
    rw [List.forall_mem_cons] at hfirst
    rw [List.foldlM_cons] at h
    obtain ⟨c₁, hfield, hrest⟩ := bind_eq_ok.mp h
    obtain ⟨v, hplain, hc₁⟩ := value?_of_setField hfield hfirst.1
    have hothers {g : ConfigField} (hg : g ∈ fs) : g.value? c₁ = g.value? c := by
      rw [hc₁, if_neg]
      rintro rfl
      exact hf hg
    obtain ⟨hin, hout⟩ := ih hfs hrest fun g hg hoptional => by
      rw [hothers hg, hfirst.2 g hg hoptional]
    constructor
    · intro hg
      rcases List.mem_cons.mp hg with rfl | hg
      · refine ⟨v, hplain, ?_⟩
        rw [hout hf, hc₁, if_pos rfl]
      · rw [← hothers hg]
        exact hin hg
    · intro hg
      rw [List.mem_cons, not_or] at hg
      rw [hout hg.2, hc₁, if_neg hg.1]

/-- Every field holds what it has in the settings, or its default. -/
theorem value?_of_toConfig (h : settings.toConfig = .ok c) (f : ConfigField) :
    ∃ v, Plain (settings.lookup f.key) v ∧ f.value? c = (v.map f.reading).getD (f.value? {}) := by
  have hnodup : ConfigField.all.Nodup := by decide
  exact (value?_of_foldlM_setField hnodup h (fun f _ => value?_of_isOptional) f).1 (mem_all f)

end Settings

end TableScaffold
