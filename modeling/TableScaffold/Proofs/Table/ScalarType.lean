import Mathlib.Data.List.DropRight
import Mathlib.Data.List.Forall2
import TableScaffold.Proofs.Text.Lower
import TableScaffold.Table.ScalarType

set_option autoImplicit false

/-!
# Spellings of a SQL type

The scalar type of a SQL type is told by the words of the type without regard to the case of
ASCII letters (`ofSql_congr`), and a time zone qualifier behind them changes nothing
(`ofSql_timeZone`).  The qualifier is cut off the lower case of the type; it stands there only if
the words of the type end in it (`endsInTimeZone_of_normalise`).
-/

namespace TableScaffold

namespace Text

/-- Texts that agree one by one but for the case of ASCII letters. -/
def AgreeIgnoringCase (ws ws' : List Text) : Prop :=
  List.Forall₂ (fun w w' => eqIgnoringCase w w' = true) ws ws'

theorem agreeIgnoringCase_iff {ws ws' : List Text} : AgreeIgnoringCase ws ws'
    ↔ ws.map (List.map Char.toLower) = ws'.map (List.map Char.toLower) := by
  unfold AgreeIgnoringCase
  simp only [eqIgnoringCase_iff]
  rw [← List.forall₂_map_right_iff (f := List.map Char.toLower),
    ← List.forall₂_map_left_iff (f := List.map Char.toLower), List.forall₂_eq_eq_eq]

end Text

namespace ScalarType

open Text

variable {s t base : Text} {first : String} {qualifier : List Text}

/-! ## Time zones -/

/-- The words that begin a time zone qualifier. -/
def timeZoneWords : List String := ["with", "without"]

/-- The words of a time zone qualifier. -/
def timeZone (first : String) : List Text := [first, "time", "zone"].map String.toList

/-- Words that say with or without time zone, in any case. -/
def IsTimeZone (ws : List Text) : Prop :=
  ∃ first ∈ timeZoneWords, AgreeIgnoringCase ws (timeZone first)

/-- Texts whose last words say with or without time zone. -/
def EndsInTimeZone (s : Text) : Prop :=
  ∃ front qualifier, words s = front ++ qualifier ∧ IsTimeZone qualifier

/-- A time zone qualifier behind other words. -/
def timeZoneSuffix (first : String) : Text := ' ' :: join [' '] (timeZone first)

theorem dropTimeZone_eq (name : Text) : dropTimeZone name
    = match dropSuffix? (timeZoneSuffix "without") name with
      | some base => base
      | none => (dropSuffix? (timeZoneSuffix "with") name).getD name := rfl

theorem dropSuffix?_eq_some {suffix name : Text} :
    dropSuffix? suffix name = some base ↔ base ++ suffix = name :=
  List.isSuffixOf?_eq_some_iff_append_eq

theorem dropTimeZone_append (h : first ∈ timeZoneWords) (base : Text) :
    dropTimeZone (base ++ timeZoneSuffix first) = base := by
  rw [dropTimeZone_eq]
  rcases List.mem_pair.mp h with rfl | rfl
  · have hother :
        dropSuffix? (timeZoneSuffix "without") (base ++ timeZoneSuffix "with") = none := by
      rw [Option.eq_none_iff_forall_ne_some]
      intro other hdrop
      have hsuffix : timeZoneSuffix "with" <:+ timeZoneSuffix "without" :=
        List.suffix_of_suffix_length_le (List.suffix_append base _)
          ⟨other, dropSuffix?_eq_some.mp hdrop⟩ (by decide)
      exact absurd hsuffix (by decide)
    rw [hother, dropSuffix?_eq_some.mpr rfl]
    rfl
  · rw [dropSuffix?_eq_some.mpr rfl]

theorem dropTimeZone_eq_self {name : Text}
    (h : ∀ first ∈ timeZoneWords, ∀ base, name ≠ base ++ timeZoneSuffix first) :
    dropTimeZone name = name := by
  have hkept {first : String} (hfirst : first ∈ timeZoneWords) :
      dropSuffix? (timeZoneSuffix first) name = none := by
    rw [Option.eq_none_iff_forall_ne_some]
    intro base hdrop
    exact h first hfirst base (dropSuffix?_eq_some.mp hdrop).symm
  rw [dropTimeZone_eq, hkept (by decide), hkept (by decide)]
  rfl

/-! ## The normal form of a type -/

theorem normalise_congr (h : AgreeIgnoringCase (words s) (words t)) :
    normalise s = normalise t := by
  apply lowercase_congr
  rw [← join_map, ← join_map, agreeIgnoringCase_iff.mp h]

theorem endsInTimeZone_of_normalise (hfirst : first ∈ timeZoneWords)
    (h : normalise s = base ++ timeZoneSuffix first) : EndsInTimeZone s := by
  have hsteady : ∀ first ∈ timeZoneWords, ∀ d ∈ timeZoneSuffix first, IsSteady d := by
    unfold IsSteady
    decide
  obtain ⟨front, back, hjoin, hback⟩ := exists_of_lowercaseAfter_append h (hsteady first hfirst)
  obtain ⟨c, rest, rfl, hc, hrest⟩ := List.map_eq_cons_iff.mp hback
  have hblank : isBlank c = true := by
    rw [← isBlank_toLower, hc]
    rfl
  have hwords : words s = words front ++ words rest := by
    rw [← words_append_cons hblank, ← hjoin, words_join fun w => isUnspaced_of_mem_words]
  refine ⟨words front, words rest, hwords, first, hfirst, agreeIgnoringCase_iff.mpr ?_⟩
  have hspelled : ∀ first ∈ timeZoneWords, words (join [' '] (timeZone first))
      = (timeZone first).map (List.map Char.toLower) := by
    decide
  rw [← words_map_toLower, hrest, hspelled first hfirst]

theorem normalise_append (hne : words s ≠ []) (hfirst : first ∈ timeZoneWords)
    (hqualifier : AgreeIgnoringCase qualifier (timeZone first))
    (ht : words t = words s ++ qualifier) : normalise t = normalise s ++ timeZoneSuffix first := by
  have hascii : ∀ first ∈ timeZoneWords, (∀ c ∈ timeZoneSuffix first, c.toNat < 128)
      ∧ (timeZoneSuffix first).map Char.toLower = timeZoneSuffix first := by
    decide
  have hlower : (' ' :: join [' '] qualifier).map Char.toLower = timeZoneSuffix first := by
    rw [List.map_cons, ← join_map, agreeIgnoringCase_iff.mp hqualifier, join_map,
      ← (hascii first hfirst).2]
    rfl
  have hnil : qualifier ≠ [] := by
    rintro rfl
    cases hqualifier
  unfold normalise lowercase
  rw [ht, join_append hne hnil, List.append_assoc, List.singleton_append,
    lowercaseAfter_append_space, ← lowercaseAfter_map_toLower _ (' ' :: _), hlower,
    lowercaseAfter_ascii (hascii first hfirst).1, (hascii first hfirst).2]

/-! ## The scalar type -/

/-- White space and the case of ASCII letters do not matter. -/
theorem ofSql_congr (h : AgreeIgnoringCase (words s) (words t)) : ofSql s = ofSql t := by
  rw [ofSql, normalise_congr h]
  rfl

theorem ofSql_join_congr {ws ws' : List Text} (h : AgreeIgnoringCase ws ws') :
    ofSql (join [' '] ws) = ofSql (join [' '] ws') := by
  apply ofSql_congr
  rw [agreeIgnoringCase_iff, ← words_map_toLower, ← words_map_toLower, ← join_map, ← join_map,
    agreeIgnoringCase_iff.mp h]

/-- One time zone qualifier does not matter. -/
theorem ofSql_timeZone (hs : ¬ EndsInTimeZone s) (hqualifier : IsTimeZone qualifier)
    (ht : words t = words s ++ qualifier) : ofSql t = ofSql s := by
  obtain ⟨first, hfirst, hagree⟩ := hqualifier
  by_cases hne : words s = []
  · -- a qualifier alone is no type, and neither is nothing
    have hempty : words s = words [] := hne
    have halone : AgreeIgnoringCase (words t) (words (join [' '] (timeZone first))) := by
      rw [ht, hne, List.nil_append]
      rwa [words_join ((by decide : ∀ first ∈ timeZoneWords, ∀ w ∈ timeZone first,
        w ≠ [] ∧ ∀ c ∈ w, isBlank c = false) first hfirst)]
    have hneither : ∀ first ∈ timeZoneWords, ofSql (join [' '] (timeZone first)) = ofSql [] := by
      decide
    rw [ofSql_congr halone, hneither first hfirst, ofSql, ofSql, normalise, normalise, hempty]
  · have hkept : dropTimeZone (normalise s) = normalise s :=
      dropTimeZone_eq_self fun first hfirst base hend =>
        hs (endsInTimeZone_of_normalise hfirst hend)
    rw [ofSql, ofSql, normalise_append hne hfirst hagree ht, dropTimeZone_append hfirst, hkept]

end ScalarType

end TableScaffold
