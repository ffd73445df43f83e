import TableScaffold.Proofs.Result
import TableScaffold.Toml.Document

set_option autoImplicit false

/-!
# Lenient reading

What the strict rules accept is read under the lenient rules with the same entries
(`parse_lenient`): the rules only decide which dotted keys may put a value into a table, and
every step of reading passes on what they accept.  No accepted text has two byte order marks in
front of it, so it does not matter whether a mark is taken away before (`parse_dropMark`).
-/

namespace TableScaffold.Toml

/-! ## Changing entries -/

section Entries

variable {key : Text} {form home : TableForm} {path : List Key} {entries result : Entries}

/-- An entry that is changed in one way can be changed in another that does at least the same. -/
theorem alter_mono {change change' : Option (Nat × Value) → Reading (Nat × Value)}
    (hchange : ∀ old new, change old = .ok new → change' old = .ok new)
    (h : alter key change entries = .ok result) : alter key change' entries = .ok result := by
  induction entries generalizing result with
  | nil =>
    obtain ⟨new, hnew, hresult⟩ := bind_eq_ok.mp h
    exact bind_eq_ok.mpr ⟨new, hchange none new hnew, hresult⟩
  | cons entry rest ih =>
    obtain ⟨k, v⟩ := entry
    unfold alter at h ⊢
    split
    · next hk =>
      rw [if_pos hk] at h
      obtain ⟨new, hnew, hresult⟩ := bind_eq_ok.mp h
      exact bind_eq_ok.mpr ⟨new, hchange (some v) new hnew, hresult⟩
    · next hk =>
      rw [if_neg hk] at h
      obtain ⟨rest', hrest, hresult⟩ := bind_eq_ok.mp h
      exact bind_eq_ok.mpr ⟨rest', ih hrest, hresult⟩

theorem within_mono {change change' : TableForm → Entries → Reading Entries}
    (hchange : ∀ form old new, change form old = .ok new → change' form old = .ok new)
    (h : within form home path change entries = .ok result) :
    within form home path change' entries = .ok result := by
  induction path generalizing home entries result with
  | nil => exact hchange home entries result h
  | cons key path ih =>
    refine alter_mono (fun old new hnew => ?_) h
    split at hnew
    · obtain ⟨inner, hinner, hresult⟩ := bind_eq_ok.mp hnew
      exact bind_eq_ok.mpr ⟨inner, ih hinner, hresult⟩
    · next start old entries =>
      split
      · next hclosed =>
        rw [if_pos hclosed] at hnew
        exact hnew
      · next hopen =>
        rw [if_neg hopen] at hnew
        obtain ⟨inner, hinner, hresult⟩ := bind_eq_ok.mp hnew
        exact bind_eq_ok.mpr ⟨inner, ih hinner, hresult⟩
    · obtain ⟨inner, hinner, hresult⟩ := bind_eq_ok.mp hnew
      exact bind_eq_ok.mpr ⟨inner, ih hinner, hresult⟩
    · cases hnew

/-- A dotted key that may put in a value under the strict rules may do so under the others. -/
theorem insertAt_lenient {keys : List Key} {start : Nat} {v : Value}
    (h : insertAt .strict keys start v entries = .ok result) :
    insertAt .lenient keys start v entries = .ok result := by
  unfold insertAt at h ⊢
  split
  · next hkeys =>
    rw [hkeys] at h
    exact h
  · next key hkeys =>
    rw [hkeys] at h
    refine within_mono (fun form old new hnew => ?_) h
    have hadmits : Rules.lenient.admits form = false → Rules.strict.admits form = false := by
      cases form <;> decide
    by_cases hbarred : (keys.length > 1 && !Rules.strict.admits form) = true
    · rw [if_pos hbarred] at hnew
      cases hnew
    · rw [if_neg hbarred] at hnew
      rw [if_neg]
      · exact hnew
      · rw [Bool.and_eq_true, Bool.not_eq_true'] at hbarred ⊢
        exact mt (.imp_right hadmits) hbarred

end Entries

/-! ## Reading values -/

mutual

theorem readValue_lenient : ∀ (raw : RawValue) (v : Value), readValue .strict raw = .ok v →
    readValue .lenient raw = .ok v
  | .scalar _, _, h => h
  | .list _ items, v, h => by
    obtain ⟨vs, hvs, hresult⟩ := bind_eq_ok.mp h
    exact bind_eq_ok.mpr ⟨vs, readItems_lenient items vs hvs, hresult⟩
  | .table _ pairs, v, h => by
    obtain ⟨entries, hentries, hresult⟩ := bind_eq_ok.mp h
    exact bind_eq_ok.mpr ⟨entries, readPairs_lenient pairs [] entries hentries, hresult⟩

theorem readItems_lenient : ∀ (items : List RawValue) (vs : List (Nat × Value)),
    readItems .strict items = .ok vs → readItems .lenient items = .ok vs
  | [], _, h => h
  | raw :: items, vs, h => by
    obtain ⟨v, hv, hrest⟩ := bind_eq_ok.mp h
    obtain ⟨rest, hitems, hresult⟩ := bind_eq_ok.mp hrest
    exact bind_eq_ok.mpr ⟨v, readValue_lenient raw v hv,
      bind_eq_ok.mpr ⟨rest, readItems_lenient items rest hitems, hresult⟩⟩

theorem readPairs_lenient : ∀ (pairs : List (List Written × RawValue)) (entries result : Entries),
    readPairs .strict entries pairs = .ok result → readPairs .lenient entries pairs = .ok result
  | [], _, _, h => h
  | (written, raw) :: pairs, entries, result, h => by
    obtain ⟨keys, hkeys, hrest⟩ := bind_eq_ok.mp h
    obtain ⟨v, hv, hrest⟩ := bind_eq_ok.mp hrest
    obtain ⟨inserted, hinserted, hpairs⟩ := bind_eq_ok.mp hrest
    exact bind_eq_ok.mpr ⟨keys, hkeys, bind_eq_ok.mpr ⟨v, readValue_lenient raw v hv,
      bind_eq_ok.mpr ⟨inserted, insertAt_lenient hinserted,
        readPairs_lenient pairs inserted result hpairs⟩⟩⟩

end

/-! ## Reading files -/

theorem addLine_lenient {d d' : Document} {line : Line} (h : d.addLine .strict line = .ok d') :
    d.addLine .lenient line = .ok d' := by
  cases line with
  | header ofArray start written => exact h
  | pair written raw =>
    obtain ⟨keys, hkeys, hrest⟩ := bind_eq_ok.mp h
    obtain ⟨v, hv, hrest⟩ := bind_eq_ok.mp hrest
    obtain ⟨inserted, hinserted, hresult⟩ := bind_eq_ok.mp hrest
    exact bind_eq_ok.mpr ⟨keys, hkeys, bind_eq_ok.mpr ⟨v, readValue_lenient raw v hv,
      bind_eq_ok.mpr ⟨inserted, insertAt_lenient hinserted, hresult⟩⟩⟩

theorem addLines_lenient {lines : List Line} {d d' : Document}
    (h : lines.foldlM (Document.addLine .strict) d = .ok d') :
    lines.foldlM (Document.addLine .lenient) d = .ok d' := by
  induction lines generalizing d with
  | nil => exact h
  | cons line lines ih =>
    rw [List.foldlM_cons] at h ⊢
    obtain ⟨d₁, hline, hlines⟩ := bind_eq_ok.mp h
    exact bind_eq_ok.mpr ⟨d₁, addLine_lenient hline, ih hlines⟩

theorem entriesOf_lenient {t : Text} {entries : Entries} (h : entriesOf .strict t = .ok entries) :
    entriesOf .lenient t = .ok entries := by
  obtain ⟨lines, hlines, hrest⟩ := bind_eq_ok.mp h
  obtain ⟨d, hd, hrest⟩ := bind_eq_ok.mp hrest
  exact bind_eq_ok.mpr ⟨lines, hlines, bind_eq_ok.mpr ⟨d, addLines_lenient hd, hrest⟩⟩

theorem parse_eq_ok {rules : Rules} {t : Text} {entries : Entries} :
    parse rules t = .ok entries ↔ entriesOf rules (dropMark t).2 = .ok entries := by
  unfold parse
  cases entriesOf rules (dropMark t).2 with
  | error fault => exact ⟨nofun, nofun⟩
  | ok entries =>
    exact ⟨fun h => congrArg _ (Except.ok.inj h), fun h => congrArg _ (Except.ok.inj h)⟩

/-- What is accepted under the strict rules is accepted under the lenient ones, with the same
entries. -/
theorem parse_lenient {t : Text} {entries : Entries} (h : parse .strict t = .ok entries) :
    parse .lenient t = .ok entries :=
  parse_eq_ok.mpr (entriesOf_lenient (parse_eq_ok.mp h))

/-! ## Byte order marks -/

/-- A line that begins with a bare run has a key that begins with it. -/
theorem exists_pair_of_bare {x : Extent} {t : Token} {r rest : List Token} {l : Line}
    (hbare : t.kind = .bare) (h : line x t r = .ok (l, rest)) :
    ∃ ws raw, l = .pair (.ofToken t :: ws) raw := by
  have hparts : keyParts x true (t :: r)
      = (.ofToken t :: (keyParts x false r).1, (keyParts x false r).2) := by
    rw [keyParts]
    simp [hbare, isKeyPart]
  have hline : line x t r = keyLine x (t :: r) := by
    unfold line
    simp [hbare, isKeyPart]
  rw [hline, keyLine, hparts] at h
  dsimp only at h
  split at h
  · cases h
  split at h
  · obtain ⟨⟨raw, behind⟩, -, hrest⟩ := bind_eq_ok.mp h
    obtain ⟨tokens, -, hresult⟩ := bind_eq_ok.mp hrest
    exact ⟨_, raw, (congrArg Prod.fst (Except.ok.inj hresult)).symm⟩
  · cases h

/-- A key does not begin with a character that no key can hold. -/
theorem keyText_ne_ok {w : Written} {c : Char} {r : Text} (hbare : w.kind = .bare)
    (htext : w.text = c :: r) (hc : isKeyCharacter c = false) (key : Text) :
    keyText w ≠ .ok key := by
  unfold keyText
  rw [hbare, htext, List.findIdx?_cons, hc]
  exact nofun

theorem ofOffset_eq_ok {α : Type} {x : Except Nat α} {a : α} :
    Reading.ofOffset x = .ok a ↔ x = .ok a := by
  cases x with
  | error offset => exact ⟨nofun, nofun⟩
  | ok b => exact ⟨fun h => congrArg _ (Except.ok.inj h), fun h => congrArg _ (Except.ok.inj h)⟩

/-- Tokens that begin with a bare run make a line with a key first. -/
theorem exists_pair_of_linesOfTokens {t : Token} {r : List Token} {lines : List Line}
    (hbare : t.kind = .bare) (h : linesOfTokens (t :: r) = .ok lines) :
    ∃ ws raw more, lines = .pair (.ofToken t :: ws) raw :: more := by
  have hlayout : t.isLayout = false := by
    unfold Token.isLayout
    rw [hbare]
    rfl
  unfold linesOfTokens at h
  rw [List.length_cons, linesOf, hlayout, if_neg Bool.false_ne_true] at h
  obtain ⟨⟨l, rest⟩, hl, hrest⟩ := bind_eq_ok.mp h
  obtain ⟨more, -, hresult⟩ := bind_eq_ok.mp hrest
  obtain ⟨ws, raw, rfl⟩ := exists_pair_of_bare hbare hl
  exact ⟨ws, raw, more, (Except.ok.inj hresult).symm⟩

/-- A byte order mark begins a bare run, which is no key. -/
theorem entriesOf_mark (rules : Rules) (t : Text) (entries : Entries) :
    entriesOf rules (byteOrderMark :: t) ≠ .ok entries := by
  intro h
  obtain ⟨lines, hlines, hrest⟩ := bind_eq_ok.mp h
  obtain ⟨d, hd, -⟩ := bind_eq_ok.mp hrest
  obtain ⟨token, tokens, hlex, hkind, r, htext⟩ : ∃ token tokens, lex (byteOrderMark :: t)
      = token :: tokens ∧ token.kind = .bare ∧ ∃ r, token.text = byteOrderMark :: r := by
    unfold lex
    rw [lexFrom]
    exact ⟨_, _, rfl, rfl, _, rfl⟩
  rw [hlex, ofOffset_eq_ok] at hlines
  obtain ⟨ws, raw, more, rfl⟩ := exists_pair_of_linesOfTokens hkind hlines
  rw [List.foldlM_cons] at hd
  obtain ⟨d₁, hline, -⟩ := bind_eq_ok.mp hd
  obtain ⟨keys, hkeys, -⟩ := bind_eq_ok.mp hline
  obtain ⟨parts, hparts, -⟩ := bind_eq_ok.mp hkeys
  obtain ⟨key, hkey, -⟩ := bind_eq_ok.mp hparts
  exact keyText_ne_ok hkind htext (by decide) key (ofOffset_eq_ok.mp hkey)

/-- An accepted text is accepted without its byte order mark, too. -/
theorem parse_dropMark {rules : Rules} {t : Text} {entries : Entries}
    (h : parse rules t = .ok entries) : parse rules (dropMark t).2 = .ok entries := by
  rw [parse_eq_ok] at h ⊢
  rcases hdrop : (dropMark t).2 with _ | ⟨c, r⟩
  · rw [hdrop] at h
    exact h
  · rw [hdrop] at h
    have hmark : c ≠ byteOrderMark := by
      rintro rfl
      exact entriesOf_mark rules r entries h
    have hkept : (dropMark (c :: r)).2 = c :: r := by
      rw [dropMark, if_neg hmark]
    rw [hkept, h]

/-! ## The order of entries -/

/-- The entries of a file in the order in which they are read. -/
def entriesInOrder (t : Text) : Reading Entries := do
  let lines ← Reading.ofOffset (linesOfTokens (lex t))
  (← lines.foldlM (Document.addLine .strict) {}).entries

/-- Entries that are read in the order of their keys stay in it. -/
theorem parse_of_sorted {t : Text} {entries : Entries}
    (h : entries ∈ (entriesInOrder (dropMark t).2).toOption)
    (hsorted : (sortedEntries entries).Pairwise fun a b => (!(b.1 < a.1)) = true) :
    parse .strict t = .ok (sortedEntries entries) := by
  have hread : entriesInOrder (dropMark t).2 = .ok entries := by
    cases hresult : entriesInOrder (dropMark t).2 with
    | error fault =>
      rw [hresult] at h
      cases h
    | ok entries' =>
      rw [hresult] at h
      exact congrArg _ (Option.some.inj h)
  obtain ⟨lines, hlines, hrest⟩ := bind_eq_ok.mp hread
  obtain ⟨d, hd, hentries⟩ := bind_eq_ok.mp hrest
  refine parse_eq_ok.mpr (bind_eq_ok.mpr ⟨lines, hlines, bind_eq_ok.mpr ⟨d, hd, ?_⟩⟩)
  refine bind_eq_ok.mpr ⟨entries, hentries, congrArg _ ?_⟩
  exact List.mergeSort_of_pairwise hsorted

end TableScaffold.Toml
