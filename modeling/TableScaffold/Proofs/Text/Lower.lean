import TableScaffold.Proofs.Text.Rows
import TableScaffold.Proofs.Text.Upper

set_option autoImplicit false

/-!
# Lower case and the case of ASCII letters

Texts that differ only in the case of ASCII letters have one lower case (`lowercase_congr`), and
their words differ only in it as well (`words_map_toLower`).  The one mapping that looks at its
neighbours does not look beyond a space, so the lower case of a text and of what follows behind a
space stand side by side (`lowercaseAfter_append_space`).  Lower case turns the Kelvin sign into
`k` and a capital into `i` and a mark; else an ASCII character comes from an ASCII character, so
what ends in others ended so before (`exists_of_lowercaseAfter_append`).
-/

namespace TableScaffold.Text

variable {c d : Char} {before s t x y : Text}

/-! ## The case of ASCII letters -/

theorem toLower_eq_self (hc : 128 ≤ c.toNat) : c.toLower = c :=
  dif_neg fun hcapital => by
    have hlast : c.toNat ≤ 90 := UInt32.le_iff_toNat_le.mp hcapital.2
    omega

/-- What is the same of every ASCII character in either case is so of every character. -/
theorem apply_toLower {α : Type} {f : Char → α}
    (h : ∀ n < 128, f (Char.ofNat n).toLower = f (Char.ofNat n)) (c : Char) :
    f c.toLower = f c := by
  by_cases hc : c.toNat < 128
  · exact forall_ascii (p := fun c => f c.toLower = f c) h hc
  · rw [toLower_eq_self (Nat.not_lt.mp hc)]

theorem isCased_toLower (c : Char) : isCased c.toLower = isCased c :=
  apply_toLower (by decide) c

theorem isCaseIgnorable_toLower (c : Char) : isCaseIgnorable c.toLower = isCaseIgnorable c :=
  apply_toLower (by decide) c

theorem isBlank_toLower (c : Char) : isBlank c.toLower = isBlank c :=
  apply_toLower (by decide) c

theorem lowerOf_toLower (c : Char) : lowerOf c.toLower = lowerOf c :=
  apply_toLower (by decide) c

theorem toLower_eq_capitalSigma : c.toLower = capitalSigma ↔ c = capitalSigma :=
  decide_eq_decide.mp (apply_toLower (f := fun c => decide (c = capitalSigma)) (by decide) c)

theorem eqIgnoringCase_iff : eqIgnoringCase s t = true ↔ s.map Char.toLower = t.map Char.toLower :=
  beq_iff_eq

/-! ## One lower case -/

theorem startsCased_map_toLower (t : Text) : startsCased (t.map Char.toLower) = startsCased t := by
  have hignorable : isCaseIgnorable ∘ Char.toLower = isCaseIgnorable :=
    funext isCaseIgnorable_toLower
  unfold startsCased
  rw [List.dropWhile_map, hignorable]
  cases t.dropWhile isCaseIgnorable with
  | nil => rfl
  | cons c r => exact isCased_toLower c

theorem lowercaseAfter_map_toLower (before t : Text) :
    lowercaseAfter (before.map Char.toLower) (t.map Char.toLower) = lowercaseAfter before t := by
  induction t generalizing before with
  | nil => rfl
  | cons c r ih =>
    have hrest := ih (c :: before)
    rw [List.map_cons] at hrest
    rw [List.map_cons, lowercaseAfter, lowercaseAfter, hrest, startsCased_map_toLower,
      startsCased_map_toLower, lowerOf_toLower]
    simp only [toLower_eq_capitalSigma]

theorem lowercase_congr (h : s.map Char.toLower = t.map Char.toLower) :
    lowercase s = lowercase t := by
  unfold lowercase
  rw [← lowercaseAfter_map_toLower [] s, h, lowercaseAfter_map_toLower]

/-! ## Words -/

theorem words_map_toLower (t : Text) :
    words (t.map Char.toLower) = (words t).map (List.map Char.toLower) := by
  have hblank : (fun c => isBlank c.toLower) = isBlank := funext isBlank_toLower
  have hempty : (fun w : Text => !w.isEmpty) ∘ List.map Char.toLower = fun w : Text => !w.isEmpty :=
    funext fun w => congrArg Bool.not List.isEmpty_map
  unfold words
  rw [splitBy_map, hblank, List.filter_map, hempty]

/-- White space stands between words. -/
theorem words_append_cons (hc : isBlank c = true) (s t : Text) :
    words (s ++ c :: t) = words s ++ words t := by
  unfold words
  rw [splitBy_append_separator hc, List.filter_append]

/-- A word: it holds something, and no white space. -/
def IsUnspaced (w : Text) : Prop := w ≠ [] ∧ ∀ c ∈ w, isBlank c = false

theorem isUnspaced_of_mem_words {w : Text} (h : w ∈ words t) : IsUnspaced w := by
  obtain ⟨hmem, hne⟩ := List.mem_filter.mp h
  refine ⟨?_, eq_false_of_mem_splitBy hmem⟩
  rintro rfl
  cases hne

theorem IsUnspaced.words_eq {w : Text} (h : IsUnspaced w) : words w = [w] := by
  unfold words
  rw [splitBy_of_forall h.2, List.filter_cons_of_pos, List.filter_nil]
  rw [List.isEmpty_eq_false_iff.mpr h.1]
  rfl

theorem words_join {ws : List Text} (h : ∀ w ∈ ws, IsUnspaced w) : words (join [' '] ws) = ws := by
  induction ws with
  | nil => rfl
  | cons w ws ih =>
    rw [List.forall_mem_cons] at h
    cases ws with
    | nil => exact h.1.words_eq
    | cons v vs =>
      rw [join_cons_cons, List.append_assoc, List.singleton_append,
        words_append_cons (by decide), h.1.words_eq, ih h.2, List.singleton_append]

/-! ## Lower case behind a space -/

theorem startsCased_append_space (s r : Text) : startsCased (s ++ ' ' :: r) = startsCased s := by
  unfold startsCased
  induction s with
  | nil => rfl
  | cons c s ih =>
    rw [List.cons_append, List.dropWhile_cons, List.dropWhile_cons]
    by_cases hc : isCaseIgnorable c = true
    · rw [if_pos hc, if_pos hc]
      exact ih
    · rw [if_neg hc, if_neg hc]

theorem lowercaseAfter_append_space (before s r : Text) : lowercaseAfter before (s ++ ' ' :: r)
    = lowercaseAfter before s ++ lowercaseAfter (s.reverse ++ before) (' ' :: r) := by
  induction s generalizing before with
  | nil => rfl
  | cons c s ih =>
    rw [List.cons_append, lowercaseAfter, lowercaseAfter, startsCased_append_space, ih,
      List.append_assoc, List.reverse_cons, List.append_assoc, List.singleton_append]

/-! ## One character after the other -/

/-- The lower case of a character between others. -/
def lowerBetween (before : Text) (c : Char) (r : Text) : Text :=
  if c = capitalSigma then if startsCased before && !startsCased r then ['ς'] else ['σ']
  else lowerOf c

theorem lowercaseAfter_cons (before : Text) (c : Char) (r : Text) : lowercaseAfter before (c :: r)
    = lowerBetween before c r ++ lowercaseAfter (c :: before) r := rfl

theorem lowerBetween_ascii (hc : c.toNat < 128) (before r : Text) :
    lowerBetween before c r = [c.toLower] := by
  have hsigma : c ≠ capitalSigma := by
    rintro rfl
    exact absurd hc (by decide)
  rw [lowerBetween, if_neg hsigma, lowerOf_ascii hc]

theorem lowercaseAfter_ascii (h : ∀ c ∈ t, c.toNat < 128) (before : Text) :
    lowercaseAfter before t = t.map Char.toLower := by
  induction t generalizing before with
  | nil => rfl
  | cons c r ih =>
    rw [List.forall_mem_cons] at h
    rw [lowercaseAfter_cons, lowerBetween_ascii h.1, ih h.2]
    rfl

/-! ## Where ASCII characters come from -/

theorem avoidsAscii_of_mem_lowerShifts : ∀ s ∈ lowerShifts, s.AvoidsAscii 107 107 := by
  decide +kernel

/-- An ASCII character other than `k`: only an ASCII character has it at the end of its lower
case. -/
def IsSteady (c : Char) : Prop := c.toNat < 128 ∧ c ≠ 'k'

theorem IsSteady.of_shiftChar (h : IsSteady (shiftChar lowerShifts c)) : c.toNat < 128 := by
  obtain ⟨hascii, hk⟩ := h
  unfold shiftChar at hascii hk
  cases hfind : lowerShifts.find? (·.mem c.toNat) with
  | none =>
    rw [hfind] at hascii
    exact hascii
  | some s =>
    rw [hfind] at hascii hk
    have hmem : s.mem c.toNat = true :=
      List.find?_some (p := fun s : CodeShift => s.mem c.toNat) hfind
    have havoids := avoidsAscii_of_mem_lowerShifts s (List.mem_of_find?_eq_some hfind)
    have hwithin := havoids.within (by decide) hmem hascii
    have heq : (Char.ofNat (c.toNat + s.shift).toNat).toNat = 'k'.toNat :=
      Nat.le_antisymm hwithin.2 hwithin.1
    exact absurd (Char.toNat_inj.mp heq) hk

theorem exists_lowerBetween_eq (before : Text) (c : Char) (r : Text) :
    ∃ front d, lowerBetween before c r = front ++ [d] ∧ (IsSteady d → c.toNat < 128) := by
  unfold lowerBetween
  split
  · split
    · exact ⟨[], 'ς', rfl, fun h => absurd h.1 (by decide)⟩
    · exact ⟨[], 'σ', rfl, fun h => absurd h.1 (by decide)⟩
  unfold lowerOf
  split
  · next hc => exact ⟨[], _, rfl, fun _ => hc⟩
  split
  · exact ⟨['i'], '\u0307', rfl, fun h => absurd h.1 (by decide)⟩
  · exact ⟨[], _, rfl, fun h => h.of_shiftChar⟩

/-- A text is ASCII if its lower case is. -/
theorem ascii_of_lowercaseAfter (h : ∀ d ∈ lowercaseAfter before t, IsSteady d) :
    ∀ c ∈ t, c.toNat < 128 := by
  induction t generalizing before with
  | nil => exact nofun
  | cons c r ih =>
    rw [lowercaseAfter_cons, List.forall_mem_append] at h
    obtain ⟨front, d, hbetween, hlast⟩ := exists_lowerBetween_eq before c r
    rw [hbetween] at h
    exact List.forall_mem_cons.mpr
      ⟨hlast (h.1 d (List.mem_append_right front (.head _))), ih h.2⟩

/-- What ends in ASCII characters in lower case, ended in these characters before. -/
theorem exists_of_lowercaseAfter_append (h : lowercaseAfter before t = x ++ y)
    (hy : ∀ d ∈ y, IsSteady d) : ∃ front back, t = front ++ back ∧ back.map Char.toLower = y := by
  -- a tail whose lower case is all of `y`
  have htail {behind r : Text} (hr : lowercaseAfter behind r = y) : r.map Char.toLower = y := by
    rw [← hr, lowercaseAfter_ascii (ascii_of_lowercaseAfter (hr ▸ hy))]
  induction t generalizing before x with
  | nil =>
    obtain ⟨-, rfl⟩ := List.append_eq_nil_iff.mp h.symm
    exact ⟨[], [], rfl, rfl⟩
  | cons c r ih =>
    have hsplit := h
    rw [lowercaseAfter_cons] at hsplit
    rcases List.append_eq_append_iff.mp hsplit with ⟨more, -, hmore⟩ | ⟨more, hbetween, hmore⟩
    · obtain ⟨front, back, rfl, hback⟩ := ih hmore
      exact ⟨c :: front, back, rfl, hback⟩
    · cases more with
      | nil => exact ⟨[c], r, rfl, htail hmore.symm⟩
      | cons e more =>
        -- the lower case of `c` reaches into `y`, so `c` is ASCII and this is one character
        obtain ⟨front, d, hlast, hsteady⟩ := exists_lowerBetween_eq before c r
        have hd : d ∈ e :: more := by
          have hgetLast := congrArg List.getLast? (hbetween.symm.trans hlast)
          rw [List.getLast?_append, List.getLast?_eq_some_getLast (List.cons_ne_nil e more),
            Option.some_or, List.getLast?_concat] at hgetLast
          exact Option.some.inj hgetLast ▸ List.getLast_mem _
        have hc := hsteady (hy d (hmore ▸ List.mem_append_left _ hd))
        rw [lowerBetween_ascii hc] at hbetween
        rcases List.append_eq_singleton_iff.mp hbetween.symm with ⟨rfl, -⟩ | ⟨-, hnil⟩
        · exact ⟨[], c :: r, rfl, htail h⟩
        · cases hnil

end TableScaffold.Text
