import TableScaffold.Proofs.Config.Overlay
import TableScaffold.Proofs.Toml.Integers
import TableScaffold.Proofs.Toml.Lenient

set_option autoImplicit false

/-!
# Entries and the settings that they become

However the lines of a file are put together, no key stands twice among the entries
(`nodup_of_parse`): an entry is changed where it is, or is added under a key that is not there.  An
entry becomes a setting under its key, with the value that is written (`Value.scalar?`).  So
settings have under a key the value that the file has there (`last?_of_tomlSettings`).
-/

namespace TableScaffold.Toml

/-! ## Entries under distinct keys -/

/-- The keys of entries. -/
def keysOf (entries : Entries) : List Text := entries.map (·.1)

section

variable {key : Text} {entries entries' result : Entries}

/-- Under distinct keys, what is found is what is there. -/
theorem lookup_eq_some_iff_mem (h : (keysOf entries).Nodup) {v : Nat × Value} :
    entries.lookup key = some v ↔ (key, v) ∈ entries := by
  induction entries with
  | nil => exact ⟨nofun, nofun⟩
  | cons entry entries ih =>
    obtain ⟨k, u⟩ := entry
    obtain ⟨hnot, hnodup⟩ := List.nodup_cons.mp h
    rw [List.lookup_cons, List.mem_cons]
    by_cases hk : key = k
    · subst hk
      have hother : (key, v) ∉ entries := fun hmem => hnot (List.mem_map.mpr ⟨_, hmem, rfl⟩)
      simp [hother, eq_comm]
    · rw [beq_eq_false_iff_ne.mpr hk, ← ih hnodup, Prod.mk.injEq]
      exact ⟨.inr, fun h => h.resolve_left fun heq => hk heq.1⟩

/-- Entries in another order have the same values under their keys. -/
theorem lookup_eq_of_perm (h : entries.Perm entries') (hnodup : (keysOf entries).Nodup)
    (key : Text) : entries.lookup key = entries'.lookup key := by
  have hnodup' : (keysOf entries').Nodup := (h.map _).nodup_iff.mp hnodup
  refine Option.ext fun v => ?_
  rw [lookup_eq_some_iff_mem hnodup, lookup_eq_some_iff_mem hnodup', h.mem_iff]

/-! ## What changes keep -/

/-- Where an entry is changed, its key stays, or is added if there was none. -/
theorem keysOf_alter {change : Option (Nat × Value) → Reading (Nat × Value)}
    (h : alter key change entries = .ok result) :
    keysOf result = if key ∈ keysOf entries then keysOf entries else keysOf entries ++ [key] := by
  induction entries generalizing result with
  | nil =>
    obtain ⟨new, -, hresult⟩ := bind_eq_ok.mp h
    cases hresult
    rfl
  | cons entry rest ih =>
    obtain ⟨k, v⟩ := entry
    rw [alter] at h
    by_cases hk : k = key
    · rw [if_pos hk] at h
      obtain ⟨new, -, hresult⟩ := bind_eq_ok.mp h
      cases hresult
      simp [keysOf, hk]
    · rw [if_neg hk] at h
      obtain ⟨rest', hrest, hresult⟩ := bind_eq_ok.mp h
      cases hresult
      have hmem : key ∈ keysOf ((k, v) :: rest) ↔ key ∈ keysOf rest := by
        simp [keysOf, Ne.symm hk]
      change k :: keysOf rest' = _
      rw [ih hrest]
      simp only [hmem]
      split <;> rfl

theorem nodup_alter {change : Option (Nat × Value) → Reading (Nat × Value)}
    (h : alter key change entries = .ok result) (hnodup : (keysOf entries).Nodup) :
    (keysOf result).Nodup := by
  rw [keysOf_alter h]
  split
  · exact hnodup
  · next hnew =>
    refine List.nodup_append.mpr ⟨hnodup, List.pairwise_singleton _ _, ?_⟩
    rintro a ha b hb rfl
    rw [List.mem_singleton.mp hb] at ha
    exact hnew ha

/-- A change behind a path keeps the keys distinct, if it does so where the path is empty. -/
theorem nodup_within {form home : TableForm} {path : List Key}
    {change : TableForm → Entries → Reading Entries}
    (hchange : ∀ new, change home entries = .ok new → (keysOf new).Nodup)
    (h : within form home path change entries = .ok result) (hnodup : (keysOf entries).Nodup) :
    (keysOf result).Nodup := by
  cases path with
  | nil => exact hchange result h
  | cons key path => exact nodup_alter h hnodup

theorem nodup_insertAt {rules : Rules} {keys : List Key} {start : Nat} {v : Value}
    (h : insertAt rules keys start v entries = .ok result) (hnodup : (keysOf entries).Nodup) :
    (keysOf result).Nodup := by
  unfold insertAt at h
  split at h
  · cases h
    exact hnodup
  · refine nodup_within (fun new hnew => ?_) h hnodup
    split at hnew
    · cases hnew
    · exact nodup_alter hnew hnodup

end

/-! ## Documents -/

namespace Document

variable {rules : Rules} {d d' : Document} {line : Line}

/-- No key stands twice in the complete tables, or in the table of the whole file while it is
read. -/
structure Distinct (d : Document) : Prop where
  root : (keysOf d.root).Nodup
  current : d.header = none → (keysOf d.current).Nodup

theorem Distinct.entries {entries : Entries} (hd : d.Distinct) (h : d.entries = .ok entries) :
    (keysOf entries).Nodup := by
  unfold Document.entries at h
  split at h
  · next hheader =>
    cases h
    exact hd.current hheader
  · exact nodup_within (fun new hnew => nodup_alter hnew hd.root) h hd.root

theorem Distinct.openTable {root : Entries} {h : Header} (hroot : (keysOf root).Nodup)
    (hopen : openTable root h = .ok d) : d.Distinct := by
  unfold Document.openTable at hopen
  dsimp only at hopen
  split at hopen
  · rw [pure_bind] at hopen
    obtain ⟨first, -, hresult⟩ := bind_eq_ok.mp hopen
    cases hresult
    exact ⟨hroot, nofun⟩
  · obtain ⟨root', hroot', hrest⟩ := bind_eq_ok.mp hopen
    obtain ⟨first, -, hresult⟩ := bind_eq_ok.mp hrest
    cases hresult
    refine ⟨nodup_within (fun new hnew => ?_) hroot' hroot, nofun⟩
    cases hnew
    exact hroot

/-- One more line keeps the keys distinct. -/
theorem Distinct.addLine (hd : d.Distinct) (h : d.addLine rules line = .ok d') : d'.Distinct := by
  cases line with
  | pair written raw =>
    obtain ⟨keys, -, hrest⟩ := bind_eq_ok.mp h
    obtain ⟨v, -, hrest⟩ := bind_eq_ok.mp hrest
    obtain ⟨inserted, hinserted, hresult⟩ := bind_eq_ok.mp hrest
    cases hresult
    exact ⟨hd.root, fun hheader => nodup_insertAt hinserted (hd.current hheader)⟩
  | header ofArray start written =>
    obtain ⟨root, hroot, hrest⟩ := bind_eq_ok.mp h
    have hentries := hd.entries hroot
    obtain ⟨keys, -, hopen⟩ := bind_eq_ok.mp hrest
    split at hopen
    · cases hopen
      exact hd
    · exact .openTable hentries hopen

theorem Distinct.addLines {lines : List Line} (hd : d.Distinct)
    (h : lines.foldlM (Document.addLine rules) d = .ok d') : d'.Distinct := by
  induction lines generalizing d with
  | nil =>
    cases h
    exact hd
  | cons line lines ih =>
    rw [List.foldlM_cons] at h
    obtain ⟨d₁, hline, hlines⟩ := bind_eq_ok.mp h
    exact ih (hd.addLine hline) hlines

end Document

theorem keysOf_sortedEntries (entries : Entries) :
    keysOf (sortedEntries entries) = keysOf entries := by
  induction entries with
  | nil => rfl
  | cons entry entries ih => exact congrArg (entry.1 :: ·) ih

/-- No key stands twice among the entries of a file. -/
theorem nodup_of_parse {rules : Rules} {t : Text} {entries : Entries}
    (h : parse rules t = .ok entries) : (keysOf entries).Nodup := by
  obtain ⟨lines, -, hrest⟩ := bind_eq_ok.mp (parse_eq_ok.mp h)
  obtain ⟨d, hd, hrest⟩ := bind_eq_ok.mp hrest
  obtain ⟨unsorted, hunsorted, hresult⟩ := bind_eq_ok.mp hrest
  cases hresult
  have hstart : (Document.mk [] none []).Distinct := ⟨.nil, fun _ => .nil⟩
  have hnodup := (hstart.addLines hd).entries hunsorted
  rw [← keysOf_sortedEntries] at hnodup
  exact ((List.mergeSort_perm _ _).map _).nodup_iff.mpr hnodup

/-! ## Values as settings -/

/-- What a value is in settings, unless it is a list, a table or a number that is out of range. -/
def Value.scalar? : Value → Option SettingScalar
  | .text t => some (.text t)
  | .integer n => (n.value?.filter fun v => decide (SettingScalar.Fits v)).map .integer
  | .float x => some (.float x)
  | .boolean b => some (.boolean b)
  | .dateTime t => some (.text t)
  | _ => none

end TableScaffold.Toml

namespace TableScaffold.FileFormat

open Toml

variable {origin key : Text} {v : Value} {s : Setting} {file : Settings} {entries : Entries}

/-- A value becomes a setting with what the value is. -/
theorem scalarUnder_of_tomlSetting (h : tomlSetting origin v = .ok s) (name : Text) :
    Settings.scalarUnder key (name, s) = if name = key then v.scalar? else none := by
  cases v with
  | text t =>
    cases h
    rfl
  | integer n =>
    cases hn : n.toInt64 with
    | error fault =>
      rw [tomlSetting, hn] at h
      cases h
    | ok i =>
      rw [tomlSetting, hn] at h
      cases h
      obtain ⟨hvalue, hfits⟩ := Numeral.toInt64_eq_ok.mp hn
      rw [Value.scalar?, hvalue, Option.filter_some, if_pos (decide_eq_true hfits)]
      rfl
  | float x =>
    cases h
    rfl
  | excess => cases h
  | boolean b =>
    cases h
    rfl
  | dateTime t =>
    cases h
    rfl
  | list items =>
    obtain ⟨_, -, hresult⟩ := bind_eq_ok.mp h
    cases hresult
    exact (ite_self none).symm
  | tables ts =>
    obtain ⟨_, -, hresult⟩ := bind_eq_ok.mp h
    cases hresult
    exact (ite_self none).symm
  | table form inner =>
    obtain ⟨_, -, hresult⟩ := bind_eq_ok.mp h
    cases hresult
    exact (ite_self none).symm

/-- Entries become settings with the values under their keys. -/
theorem filterMap_of_tomlSettings (h : tomlSettings origin entries = .ok file) (key : Text) :
    file.filterMap (Settings.scalarUnder key)
      = entries.filterMap fun e => if e.1 = key then e.2.2.scalar? else none := by
  induction entries generalizing file with
  | nil =>
    cases h
    rfl
  | cons entry entries ih =>
    obtain ⟨name, start, v⟩ := entry
    obtain ⟨s, hs, hrest⟩ := bind_eq_ok.mp h
    obtain ⟨file', hfile', hresult⟩ := bind_eq_ok.mp hrest
    cases hresult
    rw [List.filterMap_cons, List.filterMap_cons, ih hfile', scalarUnder_of_tomlSetting hs]

/-- Under distinct keys, settings have the value of the entry under a key. -/
theorem last?_of_tomlSettings (h : tomlSettings origin entries = .ok file)
    (hnodup : (keysOf entries).Nodup) (key : Text) :
    file.last? key = (entries.lookup key).bind (·.2.scalar?) := by
  unfold Settings.last?
  rw [filterMap_of_tomlSettings h]
  clear h
  induction entries with
  | nil => rfl
  | cons entry entries ih =>
    obtain ⟨name, start, v⟩ := entry
    obtain ⟨hnot, hnodup⟩ := List.nodup_cons.mp hnodup
    rw [List.filterMap_cons, List.lookup_cons]
    by_cases hname : name = key
    · subst hname
      have hrest :
          entries.filterMap (fun e => if e.1 = name then e.2.2.scalar? else none) = [] := by
        refine List.filterMap_eq_nil_iff.mpr fun e he => if_neg ?_
        rintro rfl
        exact hnot (List.mem_map.mpr ⟨e, he, rfl⟩)
      rw [hrest]
      cases hv : v.scalar? <;> simp [hv]
    · rw [beq_eq_false_iff_ne.mpr (Ne.symm hname), if_neg hname]
      exact ih hnodup

end TableScaffold.FileFormat
