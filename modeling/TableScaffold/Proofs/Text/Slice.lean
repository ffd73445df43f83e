import TableScaffold.Proofs.Text.Offset

set_option autoImplicit false

/-!
# Slices that may be refused

A text in UTF-8 can be cut at a byte offset only between two of its characters
(`isBoundary`), so a slice between two offsets may be refused (`slice?`).  Byte
offsets of places are never refused (`isBoundary_byteOffset`), whether or not the
text has those places, and the slice between two of them is cut as soon as the
second one is not in front of the first (`slice?_max`).
-/

namespace TableScaffold.Text

/-! ## Boundaries -/

/-- Whether a byte offset stands between two characters of a text or at one of its
ends. -/
def isBoundary : Text → Nat → Bool
  | [], n => n == 0
  | c :: r, n => n == 0 || (decide (c.utf8Size ≤ n) && isBoundary r (n - c.utf8Size))

@[simp] theorem isBoundary_zero (t : Text) : isBoundary t 0 = true := by
  cases t <;> rfl

/-- What stands behind a character is cut as by itself. -/
theorem isBoundary_cons (c : Char) (r : Text) (n : Nat) :
    isBoundary (c :: r) (c.utf8Size + n) = isBoundary r n := by
  have hne : c.utf8Size + n ≠ 0 := by
    have := c.utf8Size_pos
    omega
  rw [isBoundary, beq_eq_false_iff_ne.mpr hne, Bool.false_or, decide_eq_true (by omega),
    Bool.true_and, Nat.add_sub_cancel_left]

theorem isBoundary_append (before behind : Text) :
    isBoundary (before ++ behind) (byteCount before) = true := by
  induction before with
  | nil => exact isBoundary_zero behind
  | cons c before ih => rw [List.cons_append, byteCount_cons, isBoundary_cons, ih]

/-- The boundaries of a text are the numbers of bytes of its front parts. -/
theorem isBoundary_iff {t : Text} {n : Nat} : isBoundary t n = true
    ↔ ∃ before behind, t = before ++ behind ∧ n = byteCount before := by
  constructor
  · intro h
    induction t generalizing n with
    | nil => exact ⟨[], [], rfl, by simpa [isBoundary] using h⟩
    | cons c r ih =>
      rcases Nat.eq_zero_or_pos n with rfl | hpos
      · exact ⟨[], c :: r, rfl, rfl⟩
      rw [isBoundary, beq_eq_false_iff_ne.mpr (by omega), Bool.false_or, Bool.and_eq_true,
        decide_eq_true_eq] at h
      obtain ⟨before, behind, rfl, hn⟩ := ih h.2
      refine ⟨c :: before, behind, rfl, ?_⟩
      rw [byteCount_cons]
      omega
  · rintro ⟨before, behind, rfl, rfl⟩
    exact isBoundary_append before behind

/-- Byte offsets of places stand between characters, also those of places behind the
end of a line or of the text. -/
theorem isBoundary_byteOffset (t : Text) (l : Location) :
    isBoundary t (byteOffset t l) = true := by
  fun_induction byteOffset t l with
  | case1 => rfl
  | case2 c r line column _ ih => rw [isBoundary_cons, ih]
  | case3 c r line column _ _ ih =>
    rw [isBoundary_cons]
    split
    · exact isBoundary_zero r
    · exact ih
  | case4 => exact isBoundary_zero _

/-! ## Slices -/

/-- The part of a text between two byte offsets, unless they are out of order or one
of them falls into a character. -/
def slice? (t : Text) (first last : Nat) : Option Text :=
  if first ≤ last ∧ isBoundary t first = true ∧ isBoundary t last = true then
    some (slice t first last)
  else none

/-- An offset that is not behind another one is as good as that one. -/
theorem slice_max (t : Text) (first last : Nat) :
    slice t first (max first last) = slice t first last := by
  unfold slice
  congr 1
  omega

/-- The slice from one place up to another is cut, if the second one is moved up to the
first one where it stands in front of it. -/
theorem slice?_max (t : Text) (l l' : Location) :
    slice? t (byteOffset t l) (max (byteOffset t l) (byteOffset t l'))
      = some (slice t (byteOffset t l) (byteOffset t l')) := by
  have hmax : isBoundary t (max (byteOffset t l) (byteOffset t l')) = true := by
    rcases Nat.le_total (byteOffset t l) (byteOffset t l') with h | h
    · rw [Nat.max_eq_right h]
      exact isBoundary_byteOffset t l'
    · rw [Nat.max_eq_left h]
      exact isBoundary_byteOffset t l
  rw [slice?, if_pos ⟨Nat.le_max_left _ _, isBoundary_byteOffset t l, hmax⟩, slice_max]

end TableScaffold.Text
