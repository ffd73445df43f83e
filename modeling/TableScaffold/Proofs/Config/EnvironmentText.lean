import TableScaffold.Proofs.Config.Layers

set_option autoImplicit false

/-!
# Texts from the environment

The text of a variable is read as a truth value or a number if it can be, and a field for texts
takes what this value is shown as (`Environment.shown`).  So such a field has the text of its
variable exactly if the text is a truth value in small letters, an integer in its usual spelling,
another number as it is shown, or none of these (`Environment.shown_eq_iff`).  Whatever the text
is, a configuration that can be loaded without the variable can be loaded with it, and they differ
in this one field (`Config.load_variable`).
-/

namespace TableScaffold

/-! ## Integers in their usual spelling -/

namespace Text

/-- No zero stands in front of a numeral. -/
theorem exists_cons_of_ofNat {n : Nat} (hn : 0 < n) :
    ∃ d r, ofNat n = d :: r ∧ d.isDigit = true ∧ d ≠ '0' := by
  induction n using Nat.strongRecOn with
  | ind n ih =>
    unfold ofNat
    rw [Nat.toDigits_eq_if (by decide)]
    split
    · next hlt =>
      have hvalue := Nat.toNat_digitChar_of_lt_ten hlt
      refine ⟨n.digitChar, [], rfl, ?_, ?_⟩
      · rw [Char.isDigit_iff_toNat, hvalue]
        exact ⟨Nat.le_add_right _ _, Nat.le_of_lt_succ (Nat.add_lt_add_left hlt 48)⟩
      · intro hzero
        rw [hzero] at hvalue
        exact absurd (Nat.add_left_cancel (hvalue.symm.trans (Nat.add_zero 48).symm))
          (Nat.pos_iff_ne_zero.mp hn)
    · next hge =>
      obtain ⟨d, r, hdigits, hd⟩ := ih (n / 10) (by omega) (by omega)
      exact ⟨d, r ++ [(n % 10).digitChar], congrArg (· ++ _) hdigits, hd⟩

end Text

namespace Binary64

/-- A digit is the numeral of its value. -/
theorem toDigits_digit {c : Char} (hc : c.isDigit = true) :
    c.toNat - 48 < 10 ∧ Nat.toDigits 10 (c.toNat - 48) = [c] := by
  have hrange : 48 ≤ c.toNat ∧ c.toNat ≤ 57 := Char.isDigit_iff_toNat.mp hc
  have hlt : c.toNat - 48 < 10 := by omega
  refine ⟨hlt, ?_⟩
  rw [Nat.toDigits_of_lt_base hlt, List.singleton_inj]
  apply Char.toNat_inj.mp
  rw [Nat.toNat_digitChar_of_lt_ten hlt]
  omega

/-- Digits behind others. -/
theorem toDigits_foldl {n : Nat} (hn : 0 < n) {t : Text} (ht : ∀ c ∈ t, c.isDigit = true) :
    Nat.toDigits 10 (t.foldl (fun n c => n * 10 + (c.toNat - 48)) n) = Nat.toDigits 10 n ++ t := by
  induction t generalizing n with
  | nil => exact (List.append_nil _).symm
  | cons c t ih =>
    rw [List.forall_mem_cons] at ht
    obtain ⟨hlt, hdigit⟩ := toDigits_digit ht.1
    have hpush : Nat.toDigits 10 (n * 10 + (c.toNat - 48)) = Nat.toDigits 10 n ++ [c] := by
      rw [Nat.mul_comm, ← Nat.toDigits_append_toDigits (by decide) hn hlt, hdigit]
    rw [List.foldl_cons, ih (by omega) ht.2, hpush, List.append_assoc, List.singleton_append]

/-- A numeral without a zero in front is that of its number. -/
theorem ofNat_digitsValue {d : Char} {r : Text} (hzero : d ≠ '0')
    (h : ∀ c ∈ d :: r, c.isDigit = true) : Text.ofNat (digitsValue (d :: r)) = d :: r := by
  rw [List.forall_mem_cons] at h
  obtain ⟨-, hdigit⟩ := toDigits_digit h.1
  have hpos : 0 < d.toNat - 48 := by
    rw [Nat.pos_iff_ne_zero]
    intro hvalue
    rw [hvalue] at hdigit
    exact hzero (List.singleton_inj.mp hdigit).symm
  unfold digitsValue Text.ofNat
  rw [List.foldl_cons, Nat.zero_mul, Nat.zero_add, toDigits_foldl hpos h.2, hdigit,
    List.singleton_append]

/-- An integer is read from digits behind a sign or none. -/
theorem integer?_eq_some {t : Text} {n : Int} (h : integer? t = some n) :
    (∀ c ∈ (splitSign t).2, c.isDigit = true)
      ∧ n = if (splitSign t).1 then -(digitsValue (splitSign t).2 : Int)
        else digitsValue (splitSign t).2 := by
  unfold integer? at h
  split at h
  next negative digits hsign =>
  split at h
  · cases h
  · next hdigits =>
    rw [Bool.or_eq_true, not_or, Bool.not_eq_true', Bool.not_eq_false] at hdigits
    rw [hsign]
    exact ⟨List.all_eq_true.mp hdigits.2, (Option.some.inj h).symm⟩

theorem splitSign_digit {d : Char} (hd : d.isDigit = true) (r : Text) :
    splitSign (d :: r) = (false, d :: r) := by
  unfold splitSign
  split
  · next heq =>
    rw [(List.cons.inj heq).1] at hd
    cases hd
  · next heq =>
    rw [(List.cons.inj heq).1] at hd
    cases hd
  · rfl

end Binary64

namespace SettingScalar

/-- An integer in its usual spelling: no plus sign, no zero in front of other digits, and no
minus sign in front of zero. -/
def IsPlainInteger (v : Text) : Prop :=
  v = ['0'] ∨ ∃ d r, (v = d :: r ∨ v = '-' :: d :: r) ∧ d.isDigit = true ∧ d ≠ '0'

/-- An integer is shown in its usual spelling. -/
theorem toText?_integer_iff {v : Text} {n : Int} (h : Binary64.integer? v = some n) :
    (integer n).toText? = some v ↔ IsPlainInteger v := by
  unfold toText?
  rw [Option.some.injEq]
  constructor
  · rintro rfl
    by_cases hneg : n < 0
    · rw [if_pos hneg]
      have hpos := Int.natAbs_pos.mpr (Int.ne_of_lt hneg)
      obtain ⟨d, r, hdigits, hd⟩ := Text.exists_cons_of_ofNat hpos
      exact .inr ⟨d, r, .inr (congrArg _ hdigits), hd⟩
    · rw [if_neg hneg]
      by_cases hzero : n = 0
      · rw [hzero]
        exact .inl rfl
      · obtain ⟨d, r, hdigits, hd⟩ := Text.exists_cons_of_ofNat (Int.natAbs_pos.mpr hzero)
        exact .inr ⟨d, r, .inl hdigits, hd⟩
  · rintro (rfl | ⟨d, r, rfl | rfl, hd, hzero⟩)
    · obtain rfl : 0 = n := Option.some.inj h
      rfl
    · obtain ⟨hdigits, hn⟩ := Binary64.integer?_eq_some h
      rw [Binary64.splitSign_digit hd] at hdigits hn
      change n = (Binary64.digitsValue (d :: r) : Int) at hn
      rw [if_neg (by omega), hn, Int.natAbs_natCast]
      exact Binary64.ofNat_digitsValue hzero hdigits
    · obtain ⟨hdigits, hn⟩ := Binary64.integer?_eq_some h
      change ∀ c ∈ d :: r, c.isDigit = true at hdigits
      change n = -(Binary64.digitsValue (d :: r) : Int) at hn
      have hnumeral := Binary64.ofNat_digitsValue hzero hdigits
      have hpos : 0 < Binary64.digitsValue (d :: r) := by
        rw [Nat.pos_iff_ne_zero]
        intro hvalue
        rw [hvalue] at hnumeral
        exact hzero (List.cons.inj hnumeral).1.symm
      rw [if_pos (by omega), hn, Int.natAbs_neg, Int.natAbs_natCast, hnumeral]

end SettingScalar

/-! ## What a variable is shown as -/

namespace Environment

/-- The text that a field for texts takes from a variable. -/
def shown (v : Text) : Text := (value v).toText?.getD v

/-- The texts that a field for texts takes from a variable as they are. -/
structure KeepsText (v : Text) : Prop where
  /-- a truth value is in small letters -/
  truth : Text.lowercase v ∈ ["true".toList, "false".toList] → v = Text.lowercase v
  /-- an integer of 64 bits is in its usual spelling -/
  integer : ∀ n ∈ Binary64.integer? v, SettingScalar.Fits n → SettingScalar.IsPlainInteger v
  /-- any other number is as it is shown -/
  number : (∀ n ∈ Binary64.integer? v, ¬ SettingScalar.Fits n) →
    ∀ x ∈ Binary64.ofText? v, x.display = v

theorem toText?_value (v : Text) : (value v).toText? = some (shown v) := by
  have hpresent : ∃ t, (value v).toText? = some t := by
    unfold value
    split
    · exact ⟨_, rfl⟩
    split
    · exact ⟨_, rfl⟩
    split
    · exact ⟨_, rfl⟩
    split
    · exact ⟨_, rfl⟩
    · exact ⟨_, rfl⟩
  obtain ⟨t, ht⟩ := hpresent
  rw [shown, ht, Option.getD_some]

theorem filter_fits_eq_some {v : Text} {n : Int} :
    (Binary64.integer? v).filter (fun n => -Int.pow 2 63 ≤ n && n < Int.pow 2 63) = some n
      ↔ Binary64.integer? v = some n ∧ SettingScalar.Fits n := by
  rw [Option.filter_eq_some_iff, Bool.and_eq_true, decide_eq_true_iff, decide_eq_true_iff]
  rfl

/-- A truth value in small letters is kept, and no other spelling of it. -/
theorem keepsText_of_truth {v word : Text} (hword : word ∈ ["true".toList, "false".toList])
    (hv : Text.lowercase v = word) : some word = some v ↔ KeepsText v := by
  rw [Option.some.injEq]
  constructor
  · rintro rfl
    have hnumber : Binary64.integer? word = none ∧ Binary64.ofText? word = none := by
      have hall : ∀ word ∈ ["true".toList, "false".toList],
          Binary64.integer? word = none ∧ Binary64.ofText? word = none := by decide
      exact hall word hword
    exact ⟨fun _ => hv.symm, by simp [hnumber.1], by simp [hnumber.2]⟩
  · intro h
    rw [← hv] at hword ⊢
    exact (h.truth hword).symm

/-- The texts that a field for texts takes as they are. -/
theorem shown_eq_iff (v : Text) : shown v = v ↔ KeepsText v := by
  have hshown : shown v = v ↔ (value v).toText? = some v := by
    rw [toText?_value, Option.some.injEq]
  rw [hshown]
  unfold value
  split
  · next htrue => exact keepsText_of_truth (.head _) htrue
  split
  · next hfalse => exact keepsText_of_truth (.tail _ (.head _)) hfalse
  · next htrue hfalse =>
    have hword : Text.lowercase v ∉ ["true".toList, "false".toList] := by
      simpa using ⟨htrue, hfalse⟩
    split
    · next n hn =>
      rw [filter_fits_eq_some] at hn
      rw [SettingScalar.toText?_integer_iff hn.1]
      exact ⟨fun hplain => ⟨(absurd · hword), fun _ _ _ => hplain,
        fun hlarge => absurd hn.2 (hlarge n hn.1)⟩, fun h => h.integer n hn.1 hn.2⟩
    · next hn =>
      have hlarge : ∀ n ∈ Binary64.integer? v, ¬ SettingScalar.Fits n := by
        intro n hmem hfits
        rw [filter_fits_eq_some.mpr ⟨hmem, hfits⟩] at hn
        cases hn
      split
      · next x hx =>
        rw [SettingScalar.toText?, Option.some.injEq]
        refine ⟨fun hdisplay => ⟨(absurd · hword), fun n hmem hfits => absurd hfits (hlarge n hmem),
          fun _ y hy => ?_⟩, fun h => h.number hlarge x hx⟩
        rw [← hdisplay, Option.mem_unique hy hx]
      · next hx =>
        refine iff_of_true rfl ⟨(absurd · hword), fun n hmem hfits => absurd hfits (hlarge n hmem),
          fun _ y hy => ?_⟩
        rw [hx] at hy
        cases hy

end Environment

/-! ## One more setting -/

namespace Settings

variable {key : Text} {below below' source : Settings} {v : Option SettingScalar}
  {settings settings' : Settings} {f : ConfigField} {c : Config}

/-- What is under a key once a value has been put somewhere. -/
theorem lookup_assign (path : SettingPath) (s : Setting) (settings : Settings) (key : Text) :
    (settings.assign path s).lookup key
      = if key = path.root then some (setWithin s (settings.lookup path.root) path.steps)
        else settings.lookup key :=
  lookup_put _ _ _ _

/-- What is under a key once a source is laid over others depends only on what was there. -/
theorem lookup_addSource_congr (h : below.lookup key = below'.lookup key) (source : Settings) :
    (addSource below source).lookup key = (addSource below' source).lookup key := by
  induction source generalizing below below' with
  | nil => exact h
  | cons e source ih =>
    refine ih ?_
    rw [lookup_assign, lookup_assign]
    split
    · next hroot => rw [← hroot, h]
    · exact h

theorem addSource_append (below upper uppermost : Settings) :
    addSource below (upper ++ uppermost) = addSource (addSource below upper) uppermost :=
  List.foldl_append

theorem lookup_addSource_of_forall (h : ∀ e ∈ source, (SettingPath.ofKey e.1).root ≠ key) :
    (addSource below source).lookup key = below.lookup key := by
  induction source generalizing below with
  | nil => rfl
  | cons e source ih =>
    rw [List.forall_mem_cons] at h
    refine (ih h.2).trans ?_
    rw [lookup_assign, if_neg h.1.symm]

/-- Where a key is plain although no value is put under it, no value is put inside of it. -/
theorem root_ne_of_plain (h : Plain ((addSource below source).lookup key) v)
    (hkey : ∀ e ∈ source, e.1 ≠ key) : ∀ e ∈ source, (SettingPath.ofKey e.1).root ≠ key := by
  induction source generalizing below with
  | nil => nofun
  | cons e source ih =>
    rw [List.forall_mem_cons] at hkey ⊢
    have hsource := ih h hkey.2
    refine ⟨?_, hsource⟩
    rintro rfl
    have hplain : Plain ((addSource (below.assign (.ofKey e.1) e.2) source).lookup _) v := h
    rw [lookup_addSource_of_forall hsource, lookup_assign, if_pos rfl] at hplain
    rcases hpath : SettingPath.ofKey e.1 with ⟨root, _ | ⟨step, steps⟩⟩
    · rw [hpath] at hkey
      exact hkey.1 (SettingPath.eq_root_of_ofKey hpath)
    · rw [hpath] at hplain
      exact not_plain_setWithin hplain

/-- Whether a field can take a value does not depend on the configuration. -/
theorem exists_setScalar {origin : Text} {value : SettingScalar} {c' d : Config}
    (h : setScalar f origin value c = .ok d) : ∃ d', setScalar f origin value c' = .ok d' := by
  unfold setScalar at h ⊢
  by_cases habsent : (decide (value = .absent) && f.isOptional) = true
  · exact ⟨c', if_pos habsent⟩
  rw [if_neg habsent] at h ⊢
  cases htype : f.type with
  | text =>
    rw [htype] at h
    cases htext : value.toText? with
    | none => simp [htext] at h
    | some t => exact ⟨_, rfl⟩
  | boolean =>
    rw [htype] at h
    cases hboolean : value.toBoolean with
    | error fault => simp [hboolean] at h
    | ok b => exact ⟨_, rfl⟩

/-- Whether a field can be taken from settings depends only on what they have under its key. -/
theorem exists_setField {c' d : Config} (h : settings.setField c f = .ok d)
    (hsame : settings.lookup f.key = settings'.lookup f.key) :
    ∃ d', settings'.setField c' f = .ok d' := by
  unfold setField at h ⊢
  rw [hsame] at h
  cases hlookup : settings'.lookup f.key with
  | none => exact ⟨c', rfl⟩
  | some s =>
    rw [hlookup] at h
    cases s with
    | scalar origin value => exact exists_setScalar h
    | list origin => cases h
    | map entries => cases h

/-- Settings make a configuration if every field can be taken from them. -/
theorem exists_toConfig (h : ∀ (f : ConfigField) (c : Config), ∃ d, settings.setField c f = .ok d) :
    ∃ c, settings.toConfig = .ok c := by
  have hfold (fs : List ConfigField) (c : Config) :
      ∃ d, fs.foldlM settings.setField c = .ok d := by
    induction fs generalizing c with
    | nil => exact ⟨c, rfl⟩
    | cons f fs ih =>
      obtain ⟨c₁, hfield⟩ := h f c
      obtain ⟨d, hd⟩ := ih c₁
      exact ⟨d, by rw [List.foldlM_cons]; exact bind_eq_ok.mpr ⟨c₁, hfield, hd⟩⟩
  exact hfold _ {}

/-- Settings make a configuration only if every field can be taken from them. -/
theorem exists_setField_of_toConfig (h : settings.toConfig = .ok c) (f : ConfigField) :
    ∃ c₁ d, settings.setField c₁ f = .ok d := by
  have hfold {fs : List ConfigField} (hf : f ∈ fs) {c d : Config}
      (hok : fs.foldlM settings.setField c = .ok d) : ∃ c₁ d, settings.setField c₁ f = .ok d := by
    induction fs generalizing c with
    | nil => cases hf
    | cons g fs ih =>
      rw [List.foldlM_cons] at hok
      obtain ⟨c₁, hfield, hrest⟩ := bind_eq_ok.mp hok
      cases hf with
      | head => exact ⟨c, c₁, hfield⟩
      | tail _ hmem => exact ih hmem hrest
  exact hfold f.mem_all h

theorem Plain.unique {s : Option Setting} {w : Option SettingScalar} (hv : Plain s v)
    (hw : Plain s w) : v = w := by
  cases hv with
  | none => cases hw; rfl
  | scalar => cases hw; rfl

/-- Settings that a field for texts can be taken from, and that agree with others about all other
fields, make the same configuration but for this field. -/
theorem toConfig_of_text {origin : Text} {value : SettingScalar} {t : Text}
    (h : settings.toConfig = .ok c) (hf : f.type = .text) (ht : value.toText? = some t)
    (hlookup : settings'.lookup f.key = some (.scalar origin value))
    (hothers : ∀ g : ConfigField, g ≠ f → settings.lookup g.key = settings'.lookup g.key) :
    settings'.toConfig = .ok (f.setText t c) := by
  have hfield (c' : Config) : ∃ d, settings'.setField c' f = .ok d := by
    have hpresent : ¬ (decide (value = .absent) && f.isOptional) = true := by
      rw [Bool.and_eq_true, decide_eq_true_iff, not_and]
      rintro rfl
      cases ht
    unfold setField setScalar
    rw [hlookup]
    dsimp only
    rw [if_neg hpresent, hf, ht]
    exact ⟨_, rfl⟩
  obtain ⟨c', hc'⟩ : ∃ c', settings'.toConfig = .ok c' := by
    refine exists_toConfig fun g c' => ?_
    by_cases hg : g = f
    · exact hg ▸ hfield c'
    · obtain ⟨_, _, hok⟩ := exists_setField_of_toConfig h g
      exact exists_setField hok (hothers g hg)
  have hvalues (g : ConfigField) : g.value? c' = g.value? (f.setText t c) := by
    obtain ⟨v, hv, hvalue⟩ := value?_of_toConfig hc' g
    rw [hvalue, ConfigField.value?_setText hf]
    by_cases hg : g = f
    · subst hg
      rw [hlookup] at hv
      rw [if_pos rfl, hv.unique (.scalar origin value), Option.map_some, Option.getD_some,
        ConfigField.reading, hf]
      exact congrArg (Option.map FieldValue.text) ht
    · obtain ⟨w, hw, hvalue'⟩ := value?_of_toConfig h g
      rw [hothers g hg] at hw
      rw [if_neg hg, hvalue', hv.unique hw]
  exact hc'.trans (congrArg _ (ConfigField.ext_value? hvalues))

end Settings

/-! ## Loading with one more variable -/

namespace Environment

variable {f : ConfigField} {environment : Environment}

theorem settings_append (before behind : Environment) :
    settings (before ++ behind) = settings before ++ settings behind :=
  List.filterMap_append

theorem settings_variable (f : ConfigField) (v : Text) (behind : Environment) :
    settings ((f.variableName, v) :: behind)
      = (f.key, .scalar origin (value v)) :: settings behind := by
  have hkey : key? f.variableName = some f.key := key?_eq_key.mpr (decide_eq_true rfl)
  unfold settings
  rw [List.filterMap_cons_some (by rw [hkey]; rfl)]

/-- An environment without the variable of a field puts nothing under its key. -/
theorem ne_key_of_mem_settings (h : ∀ x ∈ environment, f.isVariable x.1 = false)
    {e : Text × Setting} (he : e ∈ environment.settings) : e.1 ≠ f.key := by
  obtain ⟨x, hx, hsetting⟩ := List.mem_filterMap.mp he
  obtain ⟨key, hkey, rfl⟩ := Option.map_eq_some_iff.mp hsetting
  rintro rfl
  exact Bool.false_ne_true ((h x hx).symm.trans (key?_eq_key.mp hkey))

end Environment

namespace Config

open Procedure

variable {f : ConfigField} {name : Option Path} {before behind : Environment} {w w' : Workspace}
  {c : Config}

/-- A configuration that can be loaded can be loaded with one more variable, for a field for
texts, and only this field changes: it has what the text of the variable is shown as.  That is
the text itself exactly for the texts that are kept. -/
theorem load_variable [ForeignSettings] (hf : f.type = .text) (v : Text)
    (hbehind : ∀ x ∈ behind, f.isVariable x.1 = false)
    (hload : exec (load name (before ++ behind) : Procedure Workspace Config) w = (.ok c, w')) :
    exec (load name (before ++ (f.variableName, v) :: behind) : Procedure Workspace Config) w
        = (.ok (f.setText (Environment.shown v) c), w')
      ∧ (∀ g : ConfigField, g.value? (f.setText (Environment.shown v) c)
        = if g = f then some (.text (Environment.shown v)) else g.value? c)
      ∧ (Environment.shown v = v ↔ Environment.KeepsText v) := by
  refine ⟨?_, ConfigField.value?_setText hf _ c, Environment.shown_eq_iff v⟩
  obtain ⟨file, hfile, hc⟩ := exec_load_eq_ok.mp hload
  refine exec_load_eq_ok.mpr ⟨file, hfile, ?_⟩
  rw [Environment.settings_append, Settings.addSource_append] at hc
  rw [Environment.settings_append, Environment.settings_variable, Settings.addSource_append]
  generalize Settings.addSource (Settings.addSource [] file) before.settings = below at hc ⊢
  obtain ⟨old, hplain, -⟩ := Settings.value?_of_toConfig hc f
  have hroot := Settings.root_ne_of_plain hplain fun e =>
    Environment.ne_key_of_mem_settings hbehind
  have hput (key : Text) : (below.assign (.ofKey f.key)
        (.scalar Environment.origin (Environment.value v))).lookup key
      = if key = f.key then some (.scalar Environment.origin (Environment.value v))
        else below.lookup key := by
    rw [f.ofKey_key, Settings.lookup_assign]
    rfl
  have hfield : (below.addSource ((f.key, .scalar Environment.origin (Environment.value v))
        :: behind.settings)).lookup f.key
      = some (.scalar Environment.origin (Environment.value v)) := by
    change (Settings.addSource (below.assign _ _) behind.settings).lookup f.key = _
    rw [Settings.lookup_addSource_of_forall hroot, hput, if_pos rfl]
  refine Settings.toConfig_of_text hc hf (Environment.toText?_value v) hfield fun g hg => ?_
  refine Settings.lookup_addSource_congr ?_ behind.settings
  rw [hput, if_neg fun hkey => hg (ConfigField.key_inj hkey)]

/-- A word for a module is kept, and a version number loses its last zero. -/
theorem load_variable_module :
    let before : Environment := [("CRUDGEN_FORMAT_GO".toList, "1".toList)]
    let behind : Environment := [("crudgen_log_level".toList, "Trace".toList)]
    let c : Config := { formatGo := true, logLevel := some "Trace".toList }
    let word := "acme/shop".toList
    let version := "1.50".toList
    exec (load none (before ++ behind) : Procedure Workspace Config) {} = (.ok c, {})
      ∧ exec (load none (before ++ (ConfigField.goModule.variableName, word) :: behind)
          : Procedure Workspace Config) {} = (.ok { c with goModule := word }, {})
      ∧ Environment.KeepsText word
      ∧ exec (load none (before ++ (ConfigField.goModule.variableName, version) :: behind)
          : Procedure Workspace Config) {} = (.ok { c with goModule := "1.5".toList }, {})
      ∧ ¬ Environment.KeepsText version := by
  intro before behind c word version
  have hload :
      exec (load none (before ++ behind) : Procedure Workspace Config) {} = (.ok c, {}) := by
    decide +kernel
  have hbehind : ∀ x ∈ behind, ConfigField.goModule.isVariable x.1 = false := by decide
  have hword : Environment.shown word = word := by decide
  have hversion : Environment.shown version = "1.5".toList := by decide
  obtain ⟨hfirst, -, hkept⟩ := load_variable (f := .goModule) rfl word hbehind hload
  obtain ⟨hsecond, -, hlost⟩ := load_variable (f := .goModule) rfl version hbehind hload
  rw [hword] at hfirst
  rw [hversion] at hsecond hlost
  exact ⟨hload, hfirst, hkept.mp hword, hsecond, fun h => absurd (hlost.mpr h) (by decide)⟩

/-- The zeros in front of a number are lost, so a field for texts does not always have the text
of its variable. -/
theorem not_load_variable :
    exec (load none [("CRUDGEN_OUTPUT_DIR".toList, "007".toList)] : Procedure Workspace Config) {}
        = (.ok { outputDir := "7".toList }, {})
      ∧ ¬ ∀ (f : ConfigField) (v : Text) (c : Config), f.type = .text →
        exec (load none [(f.variableName, v)] : Procedure Workspace Config) {} = (.ok c, {}) →
        f.value? c = some (.text v) := by
  have hload : exec (load none [("CRUDGEN_OUTPUT_DIR".toList, "007".toList)]
      : Procedure Workspace Config) {} = (.ok { outputDir := "7".toList }, {}) := by
    decide +kernel
  have hname : ConfigField.outputDir.variableName = "CRUDGEN_OUTPUT_DIR".toList := by decide
  refine ⟨hload, fun h => ?_⟩
  rw [← hname] at hload
  exact absurd (h .outputDir "007".toList _ rfl hload) (by decide)

end Config

end TableScaffold
