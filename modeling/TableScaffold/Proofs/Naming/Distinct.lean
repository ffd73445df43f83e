import TableScaffold.Proofs.Naming.SnakeCase

set_option autoImplicit false

/-!
# Different names stay different

Each name that code is generated under can be read back to the name in snake case it was made
from: camel case and exported names by their capitals (`snake_camel`, `snake_exported`),
variables also without the underscore behind a reserved word (`columnOf_goVariable`), and
routes at their dashes (`join_splitOn_kebab`).  So different tables and different columns never
share a name in generated code (`names_stay_distinct`).  A quoted SQL name may be any text; for
any text at all, a variable is no reserved word and camel case has no underscore.
-/

namespace TableScaffold

/-! ## Characters without a capital -/

namespace Text

variable {c : Char} {t : Text}

theorem toNat_lt_of_isLower_or_isDigit (h : c.isLower = true ∨ c.isDigit = true) :
    c.toNat < 128 := by
  rcases h with hlower | hdigit
  · rw [isLower_iff] at hlower
    omega
  · have hrange : 48 ≤ c.toNat ∧ c.toNat ≤ 57 := Char.isDigit_iff_toNat.mp hdigit
    omega

theorem isAlphanumeric_of_isLower_or_isDigit (h : c.isLower = true ∨ c.isDigit = true) :
    isAlphanumeric c = true := by
  rw [isAlphanumeric_ascii (toNat_lt_of_isLower_or_isDigit h)]
  rcases h with hlower | hdigit
  · simp [Char.isAlphanum, isAlpha_iff.mpr (.inr hlower)]
  · simp [Char.isAlphanum, hdigit]

theorem lowerOf_eq_singleton (h : c.isLower = true ∨ c.isDigit = true) : lowerOf c = [c] := by
  have hascii := toNat_lt_of_isLower_or_isDigit h
  have hsame : c.isLower = true ∨ c.isDigit = true → c.toLower = c :=
    forall_ascii (p := fun c => c.isLower = true ∨ c.isDigit = true → c.toLower = c)
      (by decide) hascii
  rw [lowerOf_ascii hascii, hsame h]

theorem upperHead_append (hne : t ≠ []) (rest : Text) :
    upperHead (t ++ rest) = upperHead t ++ rest := by
  obtain ⟨c, r, rfl⟩ := List.exists_cons_of_ne_nil hne
  exact (List.append_assoc _ r rest).symm

end Text

namespace Naming

variable {name other s : Text}

/-! ## Camel case -/

/-- Camel case of a text without underscores is the text itself. -/
theorem camel_eq_self (h : '_' ∉ name) : camel name = name := by
  have hpieces : Text.splitOn '_' name = [name] :=
    Text.splitOn_join (List.cons_ne_nil name []) (by simpa using h)
  simp [camel, hpieces]

theorem camel_camel (name : Text) : camel (camel name) = camel name :=
  camel_eq_self (not_mem_camel name)

theorem camel_inj (h : IsSnakeCase name) (hother : IsSnakeCase other)
    (heq : camel name = camel other) : name = other := by
  rw [← snake_camel h, heq, snake_camel hother]

/-! ## Exported names -/

theorem exported_eq (h : IsSnakeCase name) :
    exported name = (Text.splitOn '_' name).flatMap Text.upperHead := by
  unfold IsSnakeCase at h
  unfold exported camel
  cases hsplit : Text.splitOn '_' name with
  | nil => rfl
  | cons first later =>
    rw [hsplit, List.forall_mem_cons] at h
    obtain ⟨c, r, hfirst, -⟩ := exists_of_isSegment h.1
    change Text.upperHead (first ++ later.flatMap Text.upperHead) = _
    rw [Text.upperHead_append (hfirst ▸ List.cons_ne_nil c r), List.flatMap_cons]

/-- An exported name can be read back: its first capital begins a segment too. -/
theorem snake_exported (h : IsSnakeCase name) : snake (exported name) = '_' :: name := by
  have hne : Text.splitOn '_' name ≠ [] := Text.splitBy_ne_nil _ _
  have hjoin := Text.join_splitOn '_' name
  rw [exported_eq h, ← List.nil_append (snake _), snake_flatMap_upperHead h]
  obtain ⟨first, later, hsplit⟩ := List.exists_cons_of_ne_nil hne
  rw [hsplit] at hjoin ⊢
  rw [Text.join_cons_cons, hjoin]
  rfl

theorem exported_inj (h : IsSnakeCase name) (hother : IsSnakeCase other)
    (heq : exported name = exported other) : name = other := by
  have hsnake : '_' :: name = '_' :: other := by
    rw [← snake_exported h, heq, snake_exported hother]
  exact (List.cons.inj hsnake).2

/-! ## Routes -/

theorem isLower_or_isDigit_of_isSegment (h : isSegment s = true) :
    ∀ c ∈ s, c.isLower = true ∨ c.isDigit = true := by
  obtain ⟨c, r, rfl, hc, hr⟩ := exists_of_isSegment h
  exact List.forall_mem_cons.mpr ⟨.inl hc, hr⟩

theorem isUppercase_of_isSegment (h : isSegment s = true) :
    ∀ c ∈ s, Text.isUppercase c = false := by
  intro c hc
  rw [Text.isUppercase,
    if_pos (Text.toNat_lt_of_isLower_or_isDigit (isLower_or_isDigit_of_isSegment h c hc))]
  exact not_isUpper_of_isSegment h c hc

/-- A run of letters and digits is one word if it has no capital. -/
theorem caseWords_eq_singleton (hne : s ≠ []) (hupper : ∀ c ∈ s, Text.isUppercase c = false)
    (run : CaseRun) : caseWords run s = [s] := by
  fun_induction caseWords run s with
  | case1 => exact absurd rfl hne
  | case2 => rfl
  | case3 run c d r hcut ih => simp [hupper d] at hcut
  | case4 run c d r hstay hcut ih => simp [hupper c] at hcut
  | case5 run c d r hstay hkeep ih =>
    rw [ih (List.cons_ne_nil d r) fun e he => hupper e (.tail c he)]
    rfl

theorem isAlphanumeric_of_mem (h : IsSnakeCase name) {c : Char} (hc : c ∈ name)
    (hne : c ≠ '_') : Text.isAlphanumeric c = true := by
  rw [← Text.join_splitOn '_' name] at hc
  obtain ⟨s, hs, hmem⟩ := (Text.mem_join hc).resolve_left (by simpa using hne)
  exact Text.isAlphanumeric_of_isLower_or_isDigit (isLower_or_isDigit_of_isSegment (h s hs) c hmem)

/-- The words of a name in snake case are its segments. -/
theorem nameWords_eq (h : IsSnakeCase name) : nameWords name = Text.splitOn '_' name := by
  have hsep : ∀ c ∈ name, (!Text.isAlphanumeric c) = (c == '_') := by
    intro c hc
    by_cases hunderscore : c = '_'
    · subst hunderscore
      decide
    · rw [isAlphanumeric_of_mem h hc hunderscore, beq_false_of_ne hunderscore]
      rfl
  have hwords : ∀ s ∈ Text.splitOn '_' name, caseWords .none s = [s] := by
    intro s hs
    obtain ⟨c, r, hcons, -⟩ := exists_of_isSegment (h s hs)
    exact caseWords_eq_singleton (hcons ▸ List.cons_ne_nil c r)
      (isUppercase_of_isSegment (h s hs)) .none
  rw [nameWords, Text.splitBy_congr hsep]
  change (Text.splitOn '_' name).flatMap (caseWords .none) = _
  rw [List.flatMap_def, List.map_congr_left hwords]
  exact List.flatMap_singleton' _

theorem lowerWord_eq_self (h : ∀ c ∈ s, c.isLower = true ∨ c.isDigit = true) :
    lowerWord s = s := by
  have hlower : ∀ c ∈ s, Text.lowerOf c = [c] := fun c hc =>
    Text.lowerOf_eq_singleton (h c hc)
  fun_induction lowerWord s with
  | case1 => rfl
  | case2 => exact absurd (h _ (.head _)) (by decide)
  | case3 c _ => exact hlower c (.head _)
  | case4 c d r ih =>
    rw [List.forall_mem_cons] at h hlower
    rw [hlower.1, ih h.2 hlower.2]
    rfl

/-- Kebab case has dashes where snake case has underscores. -/
theorem kebab_eq (h : IsSnakeCase name) :
    kebab name = Text.join ['-'] (Text.splitOn '_' name) := by
  have hwords : (Text.splitOn '_' name).map lowerWord = Text.splitOn '_' name :=
    List.map_congr_left (g := id) (fun s hs =>
      lowerWord_eq_self (isLower_or_isDigit_of_isSegment (h s hs))) |>.trans (List.map_id _)
  rw [kebab, nameWords_eq h, hwords]

theorem join_splitOn_kebab (h : IsSnakeCase name) :
    Text.join ['_'] (Text.splitOn '-' (kebab name)) = name := by
  have hdash : ∀ s ∈ Text.splitOn '_' name, '-' ∉ s := fun s hs hmem =>
    absurd (isLower_or_isDigit_of_isSegment (h s hs) '-' hmem) (by decide)
  have hne : Text.splitOn '_' name ≠ [] := Text.splitBy_ne_nil _ _
  rw [kebab_eq h, Text.splitOn_join hne hdash, Text.join_splitOn]

theorem route_inj (h : IsSnakeCase name) (hother : IsSnakeCase other)
    (heq : route name = route other) : name = other := by
  rw [← join_splitOn_kebab h, (List.cons.inj heq).2, join_splitOn_kebab hother]

/-! ## All names -/

/-- Different tables have different Go types and routes, and different columns have different
variables and fields.  Whatever a text holds, its variable is no reserved word, and its camel
case has no underscore and is its own camel case. -/
theorem names_stay_distinct :
    (∀ name other : Text, IsSnakeCase name → IsSnakeCase other → name ≠ other →
      camel name ≠ camel other ∧ goVariable name ≠ goVariable other
        ∧ exported name ≠ exported other ∧ route name ≠ route other)
    ∧ ∀ text : Text, isGoKeyword (goVariable text) = false ∧ '_' ∉ camel text
      ∧ camel (camel text) = camel text := by
  refine ⟨fun name other h hother hne => ?_, fun text => ?_⟩
  · exact ⟨mt (camel_inj h hother) hne, mt (goVariable_inj h hother) hne,
      mt (exported_inj h hother) hne, mt (route_inj h hother) hne⟩
  · exact ⟨isGoKeyword_goVariable text, not_mem_camel text, camel_camel text⟩

/-- A reserved word and a name that differs from it by an underscore. -/
theorem names_stay_distinct_goto :
    let name := "goto".toList
    let other := "go_to".toList
    (IsSnakeCase name ∧ IsSnakeCase other ∧ name ≠ other)
      ∧ (camel name ≠ camel other ∧ goVariable name ≠ goVariable other
        ∧ exported name ≠ exported other ∧ route name ≠ route other)
      ∧ isGoKeyword (goVariable name) = false := by
  have hname : IsSnakeCase "goto".toList := by decide
  have hother : IsSnakeCase "go_to".toList := by decide
  have hne : "goto".toList ≠ "go_to".toList := by decide
  exact ⟨⟨hname, hother, hne⟩, names_stay_distinct.1 _ _ hname hother hne,
    (names_stay_distinct.2 "goto".toList).1⟩

end Naming

end TableScaffold
