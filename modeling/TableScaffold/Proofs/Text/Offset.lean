import TableScaffold.Text.Location

set_option autoImplicit false

/-!
# Byte offsets of places

`Location.after` walks over a text character by character, `byteOffset` walks
over its bytes.  The main statement is `byteOffset_after`: the byte offset of the
place behind a piece of a text is the number of bytes of that piece, whatever
follows it.  So byte offsets taken at places lie on the boundaries of
characters, and cutting a text at them gives its pieces back (`slice_append`).
-/

namespace TableScaffold

namespace Location

/-- A place one line further down. -/
def nextLine (l : Location) : Location := ⟨l.line + 1, l.column⟩

/-- A walk that begins one line further down ends one line further down. -/
theorem after_nextLine (l : Location) (t : Text) :
    (l.nextLine).after t = (l.after t).nextLine := by
  induction t generalizing l with
  | nil => rfl
  | cons c t ih =>
    have hnext : l.nextLine.next c = (l.next c).nextLine := by
      unfold next nextLine
      split <;> rfl
    rw [after_cons, after_cons, hnext, ih]

/-- Lines are never left upwards. -/
theorem line_le_after (l : Location) (t : Text) : l.line ≤ (l.after t).line := by
  induction t generalizing l with
  | nil => exact Nat.le_refl _
  | cons c t ih =>
    have hstep : l.line ≤ (l.next c).line := by
      unfold next
      split <;> simp
    exact Nat.le_trans hstep (ih (l.next c))

/-- A walk that leaves its line ends at the same place wherever on the line it
begins. -/
theorem after_column_of_mem (line column column' : Nat) {t : Text} (h : '\n' ∈ t) :
    (⟨line, column⟩ : Location).after t = (⟨line, column'⟩ : Location).after t := by
  induction t generalizing column column' with
  | nil => simp at h
  | cons c t ih =>
    by_cases hc : c = '\n'
    · rw [after_cons, after_cons, next, next, if_pos hc, if_pos hc]
    · have hmem : '\n' ∈ t := by simpa [Ne.symm hc] using h
      rw [after_cons, after_cons, next, next, if_neg hc, if_neg hc]
      exact ih _ _ hmem

/-- A walk that stays on its line ends as many columns further right as the text
has characters. -/
theorem after_sameLine (l : Location) {t : Text} (h : '\n' ∉ t) :
    l.after t = ⟨l.line, l.column + t.length⟩ := by
  induction t generalizing l with
  | nil => rfl
  | cons c t ih =>
    simp only [List.mem_cons, not_or] at h
    rw [after_cons, ih _ h.2, next, if_neg (Ne.symm h.1)]
    simp only [List.length_cons, Location.mk.injEq, true_and]
    omega

/-- A walk over a line feed ends on a later line. -/
theorem line_lt_after (l : Location) {t : Text} (h : '\n' ∈ t) : l.line < (l.after t).line := by
  induction t generalizing l with
  | nil => simp at h
  | cons c t ih =>
    rw [after_cons]
    by_cases hc : c = '\n'
    · have := line_le_after (l.next c) t
      rw [next, if_pos hc] at this ⊢
      exact this
    · have hmem : '\n' ∈ t := by simpa [Ne.symm hc] using h
      have hlt := ih (l.next c) hmem
      rw [next, if_neg hc] at hlt ⊢
      exact hlt

end Location

namespace Text

theorem utf8Size_ne_zero (c : Char) : c.utf8Size ≠ 0 := Nat.pos_iff_ne_zero.mp c.utf8Size_pos

/-- The byte offset of the place behind a piece at the front of a text is the
number of bytes of the piece. -/
theorem byteOffset_after (s r : Text) :
    byteOffset (s ++ r) (Location.start.after s) = byteCount s := by
  induction s with
  | nil => cases r <;> rfl
  | cons c s ih =>
    rw [List.cons_append, Location.after_cons, byteCount_cons]
    by_cases hc : c = '\n'
    · -- the rest of the walk is the walk from the start, one line further down
      have hwalk : (Location.start.next c).after s = (Location.start.after s).nextLine := by
        rw [← Location.after_nextLine, Location.next, if_pos hc]
        rfl
      have hline : 1 ≤ (Location.start.after s).line :=
        Location.line_le_after Location.start s
      rw [hwalk, Location.nextLine, byteOffset, if_pos (by omega), if_pos hc, Nat.add_sub_cancel,
        ih]
    · rw [Location.next, if_neg hc]
      by_cases hs : '\n' ∈ s
      · -- the walk leaves its first line, so where on it it began does not matter
        have hwalk : (⟨1, 1 + 1⟩ : Location).after s = Location.start.after s :=
          Location.after_column_of_mem 1 2 1 hs
        have hline : 1 < (Location.start.after s).line :=
          Location.line_lt_after Location.start hs
        show byteOffset _ ((⟨1, 1 + 1⟩ : Location).after s) = _
        rw [hwalk, byteOffset, if_pos hline, if_neg hc, ih]
      · have hwalk : (⟨1, 1 + 1⟩ : Location).after s = ⟨1, 1 + 1 + s.length⟩ :=
          Location.after_sameLine _ hs
        have hplain : Location.start.after s = ⟨1, 1 + s.length⟩ :=
          Location.after_sameLine _ hs
        show byteOffset _ ((⟨1, 1 + 1⟩ : Location).after s) = _
        rw [hwalk, byteOffset, if_neg (by omega), if_pos (by omega), if_neg hc]
        rw [hplain] at ih
        rw [← ih]
        congr 3
        omega

/-! ## Slices -/

@[simp] theorem dropBytes_zero (t : Text) : dropBytes 0 t = t := by
  cases t <;> simp [dropBytes]

@[simp] theorem takeBytes_zero (t : Text) : takeBytes 0 t = [] := by
  cases t <;> simp [takeBytes]

/-- Dropping the bytes of a piece leaves what follows it. -/
@[simp] theorem dropBytes_append (s r : Text) : dropBytes (byteCount s) (s ++ r) = r := by
  induction s with
  | nil => simp
  | cons c s ih =>
    have hpos : c.utf8Size + byteCount s ≠ 0 := by
      have := utf8Size_ne_zero c
      omega
    rw [List.cons_append, byteCount_cons, dropBytes, if_neg hpos, Nat.add_sub_cancel_left, ih]

/-- Taking the bytes of a piece gives the piece. -/
@[simp] theorem takeBytes_append (s r : Text) : takeBytes (byteCount s) (s ++ r) = s := by
  induction s with
  | nil => simp
  | cons c s ih =>
    have hpos : c.utf8Size + byteCount s ≠ 0 := by
      have := utf8Size_ne_zero c
      omega
    rw [List.cons_append, byteCount_cons, takeBytes, if_neg hpos, Nat.add_sub_cancel_left, ih]

/-- The slice between the byte offsets of two ends of a piece is the piece. -/
theorem slice_append (before piece behind : Text) :
    slice (before ++ (piece ++ behind)) (byteCount before) (byteCount before + byteCount piece)
      = piece := by
  rw [slice, Nat.add_sub_cancel_left, dropBytes_append, takeBytes_append]

end Text

end TableScaffold
