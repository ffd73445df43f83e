import TableScaffold.Proofs.Text.Letter
import TableScaffold.Text.Case

set_option autoImplicit false

/-!
# Upper case among the ASCII characters

The upper case of a character may be several characters, and some characters beyond ASCII have
one of ASCII in theirs: the long s becomes `S`, and a ligature becomes its letters.  No
separator comes about in this way: an ASCII character in an upper case is a capital, or the
character itself (`eq_or_isUpper_of_mem_upperOf`).
-/

namespace TableScaffold.Text

variable {c d : Char}

/-- What holds of the first 128 characters holds of every ASCII character. -/
theorem forall_ascii {p : Char → Prop} (h : ∀ n < 128, p (Char.ofNat n)) (hc : c.toNat < 128) :
    p c := by
  have := h c.toNat hc
  rwa [Char.ofNat_toNat] at this

theorem toNat_charOfNat {n : Nat} (h : n.isValidChar) : (Char.ofNat n).toNat = n := by
  rw [Char.ofNat, dif_pos h]
  rfl

/-! ## The tables -/

/-- The images of the shift lie between two ASCII characters, or all beyond ASCII. -/
def CodeShift.AvoidsAscii (low high : Nat) (s : CodeShift) : Prop :=
  low ≤ s.first + s.shift ∧ s.last + s.shift ≤ high
    ∨ 128 ≤ s.first + s.shift ∧ s.last + s.shift < 0xD800
    ∨ 0xE000 ≤ s.first + s.shift ∧ s.last + s.shift < 0x110000

instance (low high : Nat) (s : CodeShift) : Decidable (s.AvoidsAscii low high) :=
  inferInstanceAs (Decidable (_ ∨ _ ∨ _))

/-- An image that is ASCII lies between the two characters. -/
theorem CodeShift.AvoidsAscii.within {low high : Nat} {s : CodeShift} (h : s.AvoidsAscii low high)
    (hhigh : high < 128) {n : Nat} (hmem : s.mem n = true)
    (hascii : (Char.ofNat (n + s.shift).toNat).toNat < 128) :
    low ≤ (Char.ofNat (n + s.shift).toNat).toNat
      ∧ (Char.ofNat (n + s.shift).toNat).toNat ≤ high := by
  have hfirst : s.first ≤ n ∧ n ≤ s.last := by
    simp only [CodeSpan.mem, Bool.and_eq_true, decide_eq_true_iff] at hmem
    exact hmem.1
  have hvalid : ((n + s.shift).toNat).isValidChar := by
    unfold Nat.isValidChar
    unfold AvoidsAscii at h
    omega
  rw [toNat_charOfNat hvalid] at hascii ⊢
  unfold AvoidsAscii at h
  omega

theorem avoidsAscii_of_mem_upperShifts : ∀ s ∈ upperShifts, s.AvoidsAscii 65 90 := by
  decide +kernel

theorem isUpper_of_mem_upperExpansions : ∀ p ∈ upperExpansions, ∀ code ∈ p.2,
    (Char.ofNat code).toNat < 128 → (Char.ofNat code).isUpper = true := by
  decide +kernel

/-! ## One character -/

theorem eq_or_isUpper_toUpper (hc : c.toNat < 128) : c.toUpper = c ∨ c.toUpper.isUpper = true :=
  forall_ascii (p := fun c => c.toUpper = c ∨ c.toUpper.isUpper = true) (by decide) hc

theorem eq_or_isUpper_shiftChar (hascii : (shiftChar upperShifts c).toNat < 128) :
    shiftChar upperShifts c = c ∨ (shiftChar upperShifts c).isUpper = true := by
  unfold shiftChar at hascii ⊢
  cases hfind : upperShifts.find? (·.mem c.toNat) with
  | none => exact .inl rfl
  | some s =>
    rw [hfind] at hascii
    have hmem : s.mem c.toNat = true :=
      List.find?_some (p := fun s : CodeShift => s.mem c.toNat) hfind
    have havoids := avoidsAscii_of_mem_upperShifts s (List.mem_of_find?_eq_some hfind)
    exact .inr (isUpper_iff.mpr (havoids.within (by decide) hmem hascii))

/-- An ASCII character in an upper case is the character itself or a capital. -/
theorem eq_or_isUpper_of_mem_upperOf (hmem : d ∈ upperOf c) (hascii : d.toNat < 128) :
    d = c ∨ d.isUpper = true := by
  by_cases hc : c.toNat < 128
  · rw [upperOf_ascii hc, List.mem_singleton] at hmem
    subst hmem
    exact eq_or_isUpper_toUpper hc
  · rw [upperOf, if_neg hc] at hmem
    cases hlookup : upperExpansions.lookup c.toNat with
    | some codes =>
      rw [hlookup] at hmem
      obtain ⟨code, hcode, rfl⟩ := List.mem_map.mp hmem
      obtain ⟨before, after, heq, -⟩ := List.lookup_eq_some_iff.mp hlookup
      refine .inr (isUpper_of_mem_upperExpansions (c.toNat, codes) ?_ code hcode hascii)
      rw [heq]
      exact List.mem_append_right _ (.head _)
    | none =>
      rw [hlookup, List.mem_singleton] at hmem
      subst hmem
      exact eq_or_isUpper_shiftChar hascii

/-! ## The head of a text -/

/-- An ASCII character that is no capital stands in a text whose head became upper case only
if it stood in the text. -/
theorem mem_of_mem_upperHead {t : Text} (hmem : d ∈ upperHead t) (hascii : d.toNat < 128)
    (hupper : d.isUpper = false) : d ∈ t := by
  cases t with
  | nil => exact hmem
  | cons c r =>
    rcases List.mem_append.mp hmem with hhead | hrest
    · rcases eq_or_isUpper_of_mem_upperOf hhead hascii with rfl | hcapital
      · exact .head r
      · rw [hupper] at hcapital
        cases hcapital
    · exact .tail c hrest

end TableScaffold.Text
