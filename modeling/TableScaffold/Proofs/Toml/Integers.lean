import TableScaffold.Config.FileFormat
import TableScaffold.Proofs.Config.Values

set_option autoImplicit false

/-!
# Integers of a file

An integer of a file becomes a setting exactly if it has 64 bits: its digits are read one after
the other, and no number is left behind that a later digit could bring back
(`Numeral.toInt64_eq_ok`).  So a file of which every number is within some range becomes settings
exactly if all its integers have 64 bits (`exists_tomlSettings_iff`).
-/

namespace TableScaffold.Toml

open SettingScalar (Fits)

/-! ## Digits -/

namespace Numeral

variable {base : Nat} {negative : Bool} {a m : Nat} {digits : Text} {v : Int}

/-- A number with its sign. -/
def signed (negative : Bool) (m : Nat) : Int := if negative then -(m : Int) else m

theorem foldl_pushDigit?_none (base : Nat) (digits : Text) :
    digits.foldl (Text.pushDigit? base) none = none := by
  induction digits with
  | nil => rfl
  | cons c digits ih => exact ih

theorem foldl_pushDigit?_cons {c : Char} {d : Nat} (hc : Text.hexDigit? c = some d) :
    (c :: digits).foldl (Text.pushDigit? base) (some a)
      = digits.foldl (Text.pushDigit? base) (some (a * base + d)) := by
  rw [List.foldl_cons, Text.pushDigit?, hc, Option.map_some]

/-- More digits make no number smaller. -/
theorem le_of_foldl (hbase : 0 < base) (h : digits.foldl (Text.pushDigit? base) (some a) = some m) :
    a ≤ m := by
  induction digits generalizing a with
  | nil => exact Nat.le_of_eq (Option.some.inj h)
  | cons c digits ih =>
    cases hdigit : Text.hexDigit? c with
    | none =>
      rw [List.foldl_cons, Text.pushDigit?, hdigit, Option.map_none, foldl_pushDigit?_none] at h
      cases h
    | some d =>
      rw [foldl_pushDigit?_cons hdigit] at h
      have hstep : a * 1 ≤ a * base := Nat.mul_le_mul_left a hbase
      exact Nat.le_trans (by omega) (ih h)

theorem fits_of_le {a m : Nat} (hle : a ≤ m) (h : Fits (signed negative m)) :
    Fits (signed negative a) := by
  unfold Fits signed at h ⊢
  cases negative <;> simp at h ⊢ <;> omega

/-- The number with one more digit, if that has 64 bits. -/
theorem push64_eq_ok {c : Char} {d : Nat} (hc : Text.digit? base c = some d) :
    push64 base negative (signed negative a) c = .ok v
      ↔ v = signed negative (a * base + d) ∧ Fits v := by
  have hnext : signed negative a * base + (if negative then -(d : Int) else d)
      = signed negative (a * base + d) := by
    unfold signed
    cases negative with
    | false => simp
    | true =>
      change -(a : Int) * base + -(d : Int) = -((a * base + d : Nat) : Int)
      rw [Int.natCast_add, Int.natCast_mul, Int.neg_add, Int.neg_mul]
  unfold push64
  rw [hc]
  dsimp only
  rw [hnext]
  split
  · next hsmall =>
    refine ⟨nofun, ?_⟩
    rintro ⟨rfl, hfits⟩
    exact absurd hfits.1 (Int.not_le.mpr hsmall)
  split
  · next hlarge =>
    refine ⟨nofun, ?_⟩
    rintro ⟨rfl, hfits⟩
    exact absurd hfits.2 (Int.not_lt.mpr hlarge)
  · next hsmall hlarge =>
    constructor
    · intro h
      rw [← Except.ok.inj h]
      exact ⟨rfl, Int.not_lt.mp hsmall, Int.not_le.mp hlarge⟩
    · rintro ⟨rfl, -⟩
      rfl

/-- The number with more digits, if that has 64 bits; then all numbers on the way have. -/
theorem foldlM_push64_eq_ok (ha : Fits (signed negative a)) :
    digits.foldlM (push64 base negative) (signed negative a) = .ok v
      ↔ (∀ c ∈ digits, (Text.digit? base c).isSome = true)
        ∧ ∃ m, digits.foldl (Text.pushDigit? base) (some a) = some m
          ∧ v = signed negative m ∧ Fits v := by
  induction digits generalizing a with
  | nil =>
    constructor
    · intro h
      obtain rfl := Except.ok.inj h
      exact ⟨nofun, a, rfl, rfl, ha⟩
    · rintro ⟨-, m, hm, rfl, -⟩
      rw [Option.some.inj hm]
      rfl
  | cons c digits ih =>
    rw [List.foldlM_cons, List.forall_mem_cons, bind_eq_ok]
    cases hdigit : Text.digit? base c with
    | none =>
      refine iff_of_false ?_ fun h => Bool.false_ne_true h.1.1
      rintro ⟨next, hpush, -⟩
      unfold push64 at hpush
      rw [hdigit] at hpush
      cases hpush
    | some d =>
      obtain ⟨hhex, hlt⟩ := Option.filter_eq_some_iff.mp hdigit
      have hbase : 0 < base := Nat.zero_lt_of_lt (of_decide_eq_true hlt)
      rw [foldl_pushDigit?_cons hhex]
      constructor
      · rintro ⟨next, hpush, hrest⟩
        obtain ⟨rfl, hnext⟩ := (push64_eq_ok hdigit).mp hpush
        obtain ⟨hdigits, hvalue⟩ := (ih hnext).mp hrest
        exact ⟨⟨rfl, hdigits⟩, hvalue⟩
      · rintro ⟨⟨-, hdigits⟩, m, hm, rfl, hfits⟩
        have hnext := fits_of_le (le_of_foldl hbase hm) hfits
        exact ⟨_, (push64_eq_ok hdigit).mpr ⟨rfl, hnext⟩,
          (ih hnext).mpr ⟨hdigits, m, hm, rfl, hfits⟩⟩

/-- A numeral stands for a number if it has digits, and all of them are of its base. -/
theorem value?_eq_some {n : Numeral} : n.value? = some v
    ↔ n.digits.isEmpty = false ∧ (∀ c ∈ n.digits, (Text.digit? n.base c).isSome = true)
      ∧ ∃ m, Text.numeral? n.base n.digits = some m ∧ v = signed n.negative m := by
  unfold value? magnitude?
  by_cases hempty : n.digits.isEmpty = true
  · rw [if_pos hempty, hempty]
    exact ⟨nofun, nofun⟩
  by_cases hdigits : (n.digits.all fun c => (Text.digit? n.base c).isSome) = true
  · rw [if_neg hempty, if_pos hdigits, and_iff_right (eq_false_of_ne_true hempty),
      and_iff_right (List.all_eq_true.mp hdigits)]
    cases Text.numeral? n.base n.digits with
    | none => exact ⟨nofun, nofun⟩
    | some m =>
      constructor
      · intro h
        exact ⟨m, rfl, (Option.some.inj h).symm⟩
      · rintro ⟨_, hm, rfl⟩
        rw [← Option.some.inj hm]
        rfl
  · rw [if_neg hempty, if_neg hdigits]
    exact iff_of_false nofun fun h => hdigits (List.all_eq_true.mpr h.2.1)

/-- A numeral becomes an integer of 64 bits if it stands for one. -/
theorem toInt64_eq_ok {n : Numeral} : n.toInt64 = .ok v ↔ n.value? = some v ∧ Fits v := by
  have hzero : Fits (signed n.negative 0) := by
    unfold signed Fits
    cases n.negative <;> decide
  have hstart : signed n.negative 0 = 0 := by
    unfold signed
    cases n.negative <;> rfl
  rw [value?_eq_some]
  unfold toInt64
  by_cases hempty : n.digits.isEmpty = true
  · rw [if_pos hempty, hempty]
    exact ⟨nofun, nofun⟩
  rw [if_neg hempty, ← hstart, foldlM_push64_eq_ok hzero]
  constructor
  · rintro ⟨hdigits, m, hm, rfl, hfits⟩
    exact ⟨⟨eq_false_of_ne_true hempty, hdigits, m, hm, rfl⟩, hfits⟩
  · rintro ⟨⟨-, hdigits, m, hm, rfl⟩, hfits⟩
    exact ⟨hdigits, m, hm, rfl, hfits⟩

end Numeral

/-! ## Integers within values -/

mutual

/-- The integers in a value, however deep they lie. -/
def Value.integers : Value → List Numeral
  | .integer n => [n]
  | .list items => itemIntegers items
  | .tables ts => tableIntegers ts
  | .table _ entries => entryIntegers entries
  | _ => []

/-- The integers in the items of a list. -/
def itemIntegers : List (Nat × Value) → List Numeral
  | [] => []
  | (_, v) :: rest => v.integers ++ itemIntegers rest

/-- The integers in tables. -/
def tableIntegers : List (List (Text × Nat × Value)) → List Numeral
  | [] => []
  | entries :: rest => entryIntegers entries ++ tableIntegers rest

/-- The integers in the entries of a table. -/
def entryIntegers : List (Text × Nat × Value) → List Numeral
  | [] => []
  | (_, _, v) :: rest => v.integers ++ entryIntegers rest

end

/-- A numeral stands for an integer of 64 bits. -/
def Numeral.Fits (n : Numeral) : Prop := ∃ v ∈ n.value?, SettingScalar.Fits v

instance (n : Numeral) : Decidable n.Fits := inferInstanceAs (Decidable (∃ v ∈ n.value?, _))

theorem exists_numberSetting_iff (origin : Text) (n : Numeral) :
    (∃ s, FileFormat.numberSetting origin n.toInt64 = .ok s) ↔ n.Fits := by
  constructor
  · rintro ⟨s, hs⟩
    cases hn : n.toInt64 with
    | error fault =>
      rw [hn] at hs
      cases hs
    | ok v => exact ⟨v, Numeral.toInt64_eq_ok.mp hn⟩
  · rintro ⟨v, hv⟩
    exact ⟨.scalar origin (.integer v), by rw [Numeral.toInt64_eq_ok.mpr hv]; rfl⟩

mutual

/-- A value with no number out of every range becomes a setting if its integers have 64 bits. -/
theorem exists_tomlSetting_iff (origin : Text) : ∀ (v : Value) (start : Nat),
    v.unreadable? start = none →
      ((∃ s, FileFormat.tomlSetting origin v = .ok s) ↔ ∀ n ∈ v.integers, n.Fits)
  | .text _, _, _ => iff_of_true ⟨_, rfl⟩ nofun
  | .integer n, _, _ => by
    rw [Value.integers, List.forall_mem_singleton]
    exact exists_numberSetting_iff origin n
  | .float _, _, _ => iff_of_true ⟨_, rfl⟩ nofun
  | .excess, _, h => nomatch h
  | .boolean _, _, _ => iff_of_true ⟨_, rfl⟩ nofun
  | .dateTime _, _, _ => iff_of_true ⟨_, rfl⟩ nofun
  | .list items, _, h => by
    rw [Value.integers, ← checkItems_iff origin items h]
    constructor
    · rintro ⟨s, hs⟩
      obtain ⟨_, hitems, -⟩ := bind_eq_ok.mp hs
      exact hitems
    · intro hitems
      exact ⟨_, bind_eq_ok.mpr ⟨(), hitems, rfl⟩⟩
  | .tables ts, _, h => by
    rw [Value.integers, ← checkTables_iff origin ts h]
    constructor
    · rintro ⟨s, hs⟩
      obtain ⟨_, htables, -⟩ := bind_eq_ok.mp hs
      exact htables
    · intro htables
      exact ⟨_, bind_eq_ok.mpr ⟨(), htables, rfl⟩⟩
  | .table _ entries, _, h => by
    rw [Value.integers, ← exists_tomlSettings_iff origin entries h]
    constructor
    · rintro ⟨s, hs⟩
      obtain ⟨settings, hentries, -⟩ := bind_eq_ok.mp hs
      exact ⟨settings, hentries⟩
    · rintro ⟨settings, hentries⟩
      exact ⟨_, bind_eq_ok.mpr ⟨settings, hentries, rfl⟩⟩

theorem checkItems_iff (origin : Text) : ∀ (items : List (Nat × Value)),
    unreadableItem? items = none →
      (FileFormat.checkItems origin items = .ok () ↔ ∀ n ∈ itemIntegers items, n.Fits)
  | [], _ => iff_of_true rfl nofun
  | (start, v) :: rest, h => by
    obtain ⟨hv, hrest⟩ := Option.or_eq_none_iff.mp h
    rw [itemIntegers, List.forall_mem_append, ← exists_tomlSetting_iff origin v start hv,
      ← checkItems_iff origin rest hrest]
    constructor
    · intro hitems
      obtain ⟨s, hs, hbehind⟩ := bind_eq_ok.mp hitems
      exact ⟨⟨s, hs⟩, hbehind⟩
    · rintro ⟨⟨s, hs⟩, hbehind⟩
      exact bind_eq_ok.mpr ⟨s, hs, hbehind⟩

theorem checkTables_iff (origin : Text) : ∀ (ts : List (List (Text × Nat × Value))),
    unreadableTable? ts = none →
      (FileFormat.checkTables origin ts = .ok () ↔ ∀ n ∈ tableIntegers ts, n.Fits)
  | [], _ => iff_of_true rfl nofun
  | entries :: before, h => by
    obtain ⟨hbefore, hentries⟩ := Option.or_eq_none_iff.mp h
    rw [tableIntegers, List.forall_mem_append, ← exists_tomlSettings_iff origin entries hentries,
      ← checkTables_iff origin before hbefore]
    constructor
    · intro htables
      obtain ⟨_, hfront, hrest⟩ := bind_eq_ok.mp htables
      obtain ⟨settings, hsettings, -⟩ := bind_eq_ok.mp hrest
      exact ⟨⟨settings, hsettings⟩, hfront⟩
    · rintro ⟨⟨settings, hsettings⟩, hfront⟩
      exact bind_eq_ok.mpr ⟨(), hfront, bind_eq_ok.mpr ⟨settings, hsettings, rfl⟩⟩

/-- Entries with no number out of every range become settings if their integers have 64 bits. -/
theorem exists_tomlSettings_iff (origin : Text) : ∀ (entries : List (Text × Nat × Value)),
    unreadablePair? entries = none →
      ((∃ settings, FileFormat.tomlSettings origin entries = .ok settings)
        ↔ ∀ n ∈ entryIntegers entries, n.Fits)
  | [], _ => iff_of_true ⟨[], rfl⟩ nofun
  | (key, start, v) :: rest, h => by
    obtain ⟨hv, hrest⟩ := Option.or_eq_none_iff.mp h
    rw [entryIntegers, List.forall_mem_append, ← exists_tomlSetting_iff origin v start hv,
      ← exists_tomlSettings_iff origin rest hrest]
    constructor
    · rintro ⟨settings, hsettings⟩
      obtain ⟨s, hs, hbehind⟩ := bind_eq_ok.mp hsettings
      obtain ⟨more, hmore, -⟩ := bind_eq_ok.mp hbehind
      exact ⟨⟨s, hs⟩, more, hmore⟩
    · rintro ⟨⟨s, hs⟩, more, hmore⟩
      exact ⟨_, bind_eq_ok.mpr ⟨s, hs, bind_eq_ok.mpr ⟨more, hmore, rfl⟩⟩⟩

end

end TableScaffold.Toml
