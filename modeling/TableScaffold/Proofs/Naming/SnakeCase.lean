import TableScaffold.Naming
import TableScaffold.Proofs.Text.Rows
import TableScaffold.Proofs.Text.Upper

set_option autoImplicit false

/-!
# Names in snake case

A name in snake case has segments of small letters and digits, each with a letter at its
front, and single underscores between them.  Camel case marks the front of a later segment by
a capital, so the name can be read back from it (`snake_camel`), and from the variable, where
an underscore stands behind a reserved word (`columnOf_goVariable`).  Two such names never
share a variable (`goVariable_inj`), and no variable at all is a reserved word
(`isGoKeyword_goVariable`).
-/

namespace TableScaffold

/-! ## ASCII characters -/

namespace Text

variable {c : Char}

/-- A small letter becomes a capital, which becomes the small letter again. -/
theorem upperOf_isLower (h : c.isLower = true) :
    ∃ capital : Char, upperOf c = [capital] ∧ capital.isUpper = true ∧ capital.toLower = c := by
  have hascii : c.toNat < 128 := by
    rw [isLower_iff] at h
    omega
  have hcapital : c.isLower = true → c.toUpper.isUpper = true ∧ c.toUpper.toLower = c :=
    forall_ascii (p := fun c => c.isLower = true → c.toUpper.isUpper = true ∧ c.toUpper.toLower = c)
      (by decide) hascii
  exact ⟨c.toUpper, upperOf_ascii hascii, hcapital h⟩

theorem not_isUpper_of_isLower (h : c.isLower = true) : c.isUpper = false := by
  rw [isLower_iff] at h
  rw [Bool.eq_false_iff, Ne, isUpper_iff]
  omega

theorem not_isUpper_of_isDigit (h : c.isDigit = true) : c.isUpper = false := by
  have hrange : 48 ≤ c.toNat ∧ c.toNat ≤ 57 := Char.isDigit_iff_toNat.mp h
  rw [Bool.eq_false_iff, Ne, isUpper_iff]
  omega

end Text

namespace Naming

/-! ## Segments -/

/-- A segment: a small letter, then small letters and digits. -/
def isSegment : Text → Bool
  | [] => false
  | c :: r => c.isLower && r.all fun d => d.isLower || d.isDigit

/-- A name in snake case: it has a segment between any two underscores. -/
def IsSnakeCase (name : Text) : Prop := ∀ s ∈ Text.splitOn '_' name, isSegment s = true

instance (name : Text) : Decidable (IsSnakeCase name) :=
  inferInstanceAs (Decidable (∀ s ∈ Text.splitOn '_' name, isSegment s = true))

variable {s name other : Text}

theorem exists_of_isSegment (h : isSegment s = true) :
    ∃ c r, s = c :: r ∧ c.isLower = true ∧ ∀ d ∈ r, d.isLower = true ∨ d.isDigit = true := by
  cases s with
  | nil => cases h
  | cons c r =>
    rw [isSegment, Bool.and_eq_true, List.all_eq_true] at h
    exact ⟨c, r, rfl, h.1, fun d hd => Bool.or_eq_true _ _ ▸ h.2 d hd⟩

/-! ## Camel case and back -/

/-- The name in snake case that a camel case word is made from: a capital begins a segment. -/
def snake (word : Text) : Text := word.flatMap fun c => if c.isUpper then ['_', c.toLower] else [c]

theorem snake_append (a b : Text) : snake (a ++ b) = snake a ++ snake b := List.flatMap_append

theorem snake_eq_self {word : Text} (h : ∀ c ∈ word, c.isUpper = false) : snake word = word := by
  induction word with
  | nil => rfl
  | cons c word ih =>
    rw [List.forall_mem_cons] at h
    have hcons : snake (c :: word) = [c] ++ snake word := by simp [snake, h.1]
    rw [hcons, ih h.2, List.singleton_append]

theorem not_isUpper_of_isSegment (h : isSegment s = true) : ∀ c ∈ s, c.isUpper = false := by
  obtain ⟨c, r, rfl, hc, hr⟩ := exists_of_isSegment h
  rw [List.forall_mem_cons]
  refine ⟨Text.not_isUpper_of_isLower hc, fun d hd => ?_⟩
  rcases hr d hd with hlower | hdigit
  · exact Text.not_isUpper_of_isLower hlower
  · exact Text.not_isUpper_of_isDigit hdigit

theorem snake_upperHead (h : isSegment s = true) : snake (Text.upperHead s) = '_' :: s := by
  have hall := not_isUpper_of_isSegment h
  obtain ⟨c, r, rfl, hc, -⟩ := exists_of_isSegment h
  obtain ⟨capital, hupper, hcapital, hback⟩ := Text.upperOf_isLower hc
  rw [List.forall_mem_cons] at hall
  have hhead : snake [capital] = ['_', c] := by simp [snake, hcapital, hback]
  rw [Text.upperHead, hupper, snake_append, snake_eq_self hall.2, hhead]
  rfl

theorem snake_flatMap_upperHead {segments : List Text}
    (h : ∀ s ∈ segments, isSegment s = true) (first : Text) :
    first ++ snake (segments.flatMap Text.upperHead) = Text.join ['_'] (first :: segments) := by
  induction segments generalizing first with
  | nil => simp [snake]
  | cons s segments ih =>
    rw [List.forall_mem_cons] at h
    rw [List.flatMap_cons, snake_append, snake_upperHead h.1, Text.join_cons_cons, ← ih h.2 s]
    simp

/-- A name in snake case can be read back from its camel case. -/
theorem snake_camel (h : IsSnakeCase name) : snake (camel name) = name := by
  have hjoin := Text.join_splitOn '_' name
  unfold IsSnakeCase at h
  unfold camel
  cases hsplit : Text.splitOn '_' name with
  | nil => exact absurd hsplit (Text.splitBy_ne_nil _ _)
  | cons first later =>
    rw [hsplit] at h hjoin
    rw [List.forall_mem_cons] at h
    change snake (first ++ later.flatMap Text.upperHead) = name
    rw [snake_append, snake_eq_self (not_isUpper_of_isSegment h.1), snake_flatMap_upperHead h.2,
      hjoin]

/-- Camel case takes underscores out and makes capitals; it adds no other ASCII character. -/
theorem mem_of_mem_camel {c : Char} (hmem : c ∈ camel name) (hascii : c.toNat < 128)
    (hupper : c.isUpper = false) : c ∈ name ∧ c ≠ '_' := by
  have hpiece : ∃ s ∈ Text.splitOn '_' name, c ∈ s := by
    unfold camel at hmem
    cases hsplit : Text.splitOn '_' name with
    | nil =>
      rw [hsplit] at hmem
      cases hmem
    | cons first later =>
      rw [hsplit] at hmem
      rcases List.mem_append.mp hmem with hfirst | hlater
      · exact ⟨first, .head later, hfirst⟩
      · obtain ⟨s, hs, hhead⟩ := List.mem_flatMap.mp hlater
        exact ⟨s, .tail first hs, Text.mem_of_mem_upperHead hhead hascii hupper⟩
  obtain ⟨s, hs, hc⟩ := hpiece
  obtain ⟨hname, hsep⟩ := Text.mem_of_mem_splitBy hs hc
  exact ⟨hname, by simpa using hsep⟩

/-- No underscore is left in camel case, whatever it is made from. -/
theorem not_mem_camel (name : Text) : '_' ∉ camel name := fun hmem =>
  (mem_of_mem_camel hmem (by decide) (by decide)).2 rfl

theorem mem_of_mem_exported {c : Char} (hmem : c ∈ exported name) (hascii : c.toNat < 128)
    (hupper : c.isUpper = false) : c ∈ name :=
  (mem_of_mem_camel (Text.mem_of_mem_upperHead hmem hascii hupper) hascii hupper).1

/-! ## Variables -/

/-- A variable is no reserved word, whatever it is made from. -/
theorem isGoKeyword_goVariable (name : Text) : isGoKeyword (goVariable name) = false := by
  have hlast : ∀ word ∈ goKeywords, word.getLast? ≠ some '_' := by decide
  unfold goVariable
  split
  · rw [Bool.eq_false_iff, isGoKeyword, Ne, List.contains_iff_mem]
    intro hmem
    exact hlast _ hmem (by simp)
  · next h => exact Bool.eq_false_iff.mpr h

/-- The name in snake case that a variable is made from. -/
def columnOf (goName : Text) : Text := snake (goName.filter (· ≠ '_'))

theorem filter_goVariable (name : Text) : (goVariable name).filter (· ≠ '_') = camel name := by
  have hcamel : (camel name).filter (· ≠ '_') = camel name := by
    refine List.filter_eq_self.mpr fun c hc => ?_
    rw [decide_eq_true_iff]
    rintro rfl
    exact not_mem_camel name hc
  unfold goVariable
  split
  · rw [List.filter_append, hcamel]
    simp
  · exact hcamel

theorem columnOf_goVariable (h : IsSnakeCase name) : columnOf (goVariable name) = name := by
  rw [columnOf, filter_goVariable, snake_camel h]

/-- Names in snake case that share a variable are the same. -/
theorem goVariable_inj (h : IsSnakeCase name) (hother : IsSnakeCase other)
    (heq : goVariable name = goVariable other) : name = other := by
  rw [← columnOf_goVariable h, heq, columnOf_goVariable hother]

/-- Which name in snake case has a given variable. -/
theorem goVariable_eq_iff (h : IsSnakeCase name) {goName : Text}
    (hname : goVariable (columnOf goName) = goName) :
    goVariable name = goName ↔ name = columnOf goName := by
  constructor
  · rintro rfl
    exact (columnOf_goVariable h).symm
  · rintro rfl
    exact hname

end Naming

end TableScaffold
