import Mathlib.Data.List.TakeWhile
import TableScaffold.Files.Access
import TableScaffold.Text.Utf8

set_option autoImplicit false

/-!
# Undamaged UTF-8

The reader that replaces damaged bytes reads the bytes of a text as that text: every character is
one part, which begins with a lead byte for its size (`ofDamagedUtf8_encode`).  So it agrees with
the reader that accepts undamaged bytes only (`ofDamagedUtf8_of_textOfBytes`).
-/

namespace TableScaffold

namespace Text

variable {b c size low high : Nat} {behind cs rest : List Nat}

/-! ## Parts -/

theorem leadByte_two (hlow : 0xC2 ≤ b) (hhigh : b < 0xE0) : leadByte b = (2, 0x80, 0xBF) := by
  unfold leadByte
  rw [if_neg (by omega), if_neg (by omega), if_pos hhigh]

theorem leadByte_three (hlow : 0xE0 ≤ b) (hhigh : b < 0xF0) : leadByte b
    = (3, if b = 0xE0 then 0xA0 else 0x80, if b = 0xED then 0x9F else 0xBF) := by
  unfold leadByte
  rw [if_neg (by omega), if_neg (by omega), if_neg (by omega)]
  by_cases hfirst : b = 0xE0
  · rw [hfirst]
    rfl
  by_cases hsurrogate : b = 0xED
  · rw [hsurrogate]
    rfl
  rw [if_neg hfirst, if_neg hsurrogate, if_pos hhigh, if_neg hfirst, if_neg hsurrogate]

theorem leadByte_four (hlow : 0xF0 ≤ b) (hhigh : b ≤ 0xF4) : leadByte b
    = (4, if b = 0xF0 then 0x90 else 0x80, if b = 0xF4 then 0x8F else 0xBF) := by
  unfold leadByte
  rw [if_neg (by omega), if_neg (by omega), if_neg (by omega), if_neg (by omega),
    if_neg (by omega), if_neg (by omega)]
  by_cases hfirst : b = 0xF0
  · rw [hfirst]
    rfl
  by_cases hlast : b = 0xF4
  · rw [hlast]
    rfl
  rw [if_neg hfirst, if_pos (by omega), if_neg hfirst, if_neg hlast]

/-- A part has as many bytes as its lead byte tells, if these go on with a character. -/
theorem partLength_eq (hlead : leadByte b = (cs.length + 2, low, high)) (hlow : low ≤ c)
    (hhigh : c ≤ high) (hcs : ∀ d ∈ cs, isContinuation d = true) :
    partLength b (c :: cs ++ rest) = (c :: cs).length := by
  have htake : ((cs ++ rest).take cs.length).takeWhile isContinuation = cs := by
    rw [List.take_left, List.takeWhile_eq_self_iff.mpr hcs]
  unfold partLength
  rw [hlead]
  simp only [List.cons_append, Nat.add_sub_cancel, htake]
  rw [if_neg (by simp; omega), Nat.add_comm, List.length_cons]

/-- The character of a complete part that is not a single byte. -/
theorem partCharacter_eq (hlead : leadByte b = (cs.length + 2, low, high)) :
    partCharacter b (c :: cs) = Char.ofNat
      ((c :: cs).foldl (fun n d => n * 64 + d % 64) (b % Nat.pow 2 (7 - (cs.length + 2)))) := by
  unfold partCharacter
  rw [hlead]
  dsimp only
  rw [if_neg (by simp), if_neg (by simp)]

theorem ofDamagedUtf8_part (h : partLength b (behind ++ rest) = behind.length) :
    ofDamagedUtf8 (b :: (behind ++ rest)) = partCharacter b behind :: ofDamagedUtf8 rest := by
  rw [ofDamagedUtf8, h, List.take_left, List.drop_left]

/-- Bytes that go on with a character. -/
theorem isContinuation_digit (n : Nat) : isContinuation (n % 64 + 128) = true := by
  unfold isContinuation
  simp
  omega

/-- A character of several bytes is read from them. -/
theorem ofDamagedUtf8_several (cs : List Nat) (hlead : leadByte b = (cs.length + 2, low, high))
    (hlow : low ≤ c) (hhigh : c ≤ high) (hcs : ∀ d ∈ cs, isContinuation d = true) {v : Nat}
    (hv : (c :: cs).foldl (fun n d => n * 64 + d % 64) (b % Nat.pow 2 (7 - (cs.length + 2))) = v)
    (rest : List Nat) :
    ofDamagedUtf8 (b :: (c :: cs ++ rest)) = Char.ofNat v :: ofDamagedUtf8 rest := by
  rw [ofDamagedUtf8_part (partLength_eq hlead hlow hhigh hcs), partCharacter_eq hlead, hv]

/-! ## Characters -/

/-- The bytes of a character, as numbers. -/
def bytesOf (c : Char) : List Nat := (String.utf8EncodeChar c).map UInt8.toNat

theorem bytesOf_eq (c : Char) : bytesOf c
    = if c.toNat ≤ 127 then [c.toNat]
      else if c.toNat ≤ 2047 then [c.toNat / 64 + 192, c.toNat % 64 + 128]
      else if c.toNat ≤ 65535 then
        [c.toNat / 4096 + 224, c.toNat / 64 % 64 + 128, c.toNat % 64 + 128]
      else [c.toNat / 262144 + 240, c.toNat / 4096 % 64 + 128, c.toNat / 64 % 64 + 128,
        c.toNat % 64 + 128] := by
  have hvalid : c.toNat < 0x110000 := by
    rcases c.valid with h | h
    · exact Nat.lt_trans h (by decide)
    · exact h.2
  have hbyte {n : Nat} (hn : n < 256) : (UInt8.ofNat n).toNat = n := UInt8.toNat_ofNat_of_lt' hn
  unfold bytesOf String.utf8EncodeChar
  change List.map _ (if c.toNat ≤ 127 then [UInt8.ofNat c.toNat] else if c.toNat ≤ 2047 then
    [UInt8.ofNat (c.toNat / 64 % 32 + 192), UInt8.ofNat (c.toNat % 64 + 128)]
    else if c.toNat ≤ 65535 then
      [UInt8.ofNat (c.toNat / 4096 % 16 + 224), UInt8.ofNat (c.toNat / 64 % 64 + 128),
        UInt8.ofNat (c.toNat % 64 + 128)]
    else [UInt8.ofNat (c.toNat / 262144 % 8 + 240), UInt8.ofNat (c.toNat / 4096 % 64 + 128),
      UInt8.ofNat (c.toNat / 64 % 64 + 128), UInt8.ofNat (c.toNat % 64 + 128)]) = _
  by_cases hone : c.toNat ≤ 127
  · rw [if_pos hone, if_pos hone]
    exact congrArg (fun n => [n]) (hbyte (by omega))
  rw [if_neg hone, if_neg hone]
  by_cases htwo : c.toNat ≤ 2047
  · rw [if_pos htwo, if_pos htwo, Nat.mod_eq_of_lt (a := c.toNat / 64) (by omega)]
    simp only [List.map_cons, List.map_nil]
    rw [hbyte (by omega), hbyte (by omega)]
  rw [if_neg htwo, if_neg htwo]
  by_cases hthree : c.toNat ≤ 65535
  · rw [if_pos hthree, if_pos hthree, Nat.mod_eq_of_lt (a := c.toNat / 4096) (by omega)]
    simp only [List.map_cons, List.map_nil]
    rw [hbyte (by omega), hbyte (by omega), hbyte (by omega)]
  rw [if_neg hthree, if_neg hthree, Nat.mod_eq_of_lt (a := c.toNat / 262144) (by omega)]
  simp only [List.map_cons, List.map_nil]
  rw [hbyte (by omega), hbyte (by omega), hbyte (by omega), hbyte (by omega)]

/-- The bytes of a character are read as that character. -/
theorem ofDamagedUtf8_bytesOf (c : Char) (rest : List Nat) :
    ofDamagedUtf8 (bytesOf c ++ rest) = c :: ofDamagedUtf8 rest := by
  have hvalid : c.toNat < 0xD800 ∨ 0xDFFF < c.toNat ∧ c.toNat < 0x110000 := c.valid
  refine Eq.trans ?_ (congrArg (· :: ofDamagedUtf8 rest) (Char.ofNat_toNat c))
  rw [bytesOf_eq]
  split
  · next hone =>
    have hlead : leadByte c.toNat = (1, 0, 0) := if_pos (by omega)
    have hlength : partLength c.toNat ([] ++ rest) = 0 := by
      unfold partLength
      rw [hlead]
      cases rest <;> rfl
    rw [List.singleton_append, ← List.nil_append rest, ofDamagedUtf8_part hlength]
    unfold partCharacter
    rw [hlead]
    rfl
  split
  · next hone htwo =>
    refine ofDamagedUtf8_several [] (leadByte_two (by omega) (by omega)) (by omega)
      (by omega) nofun ?_ rest
    simp
    omega
  split
  · next htwo hthree =>
    refine ofDamagedUtf8_several [_] (leadByte_three (by omega) (by omega)) ?_ ?_ ?_ ?_ rest
    · split <;> omega
    · split <;> omega
    · simpa using isContinuation_digit _
    · simp
      omega
  · next hthree =>
    refine ofDamagedUtf8_several [_, _] (leadByte_four (by omega) (by omega)) ?_ ?_ ?_ ?_
      rest
    · split <;> omega
    · split <;> omega
    · simpa using ⟨isContinuation_digit _, isContinuation_digit _⟩
    · simp
      omega

/-- The bytes of a text are read as that text. -/
theorem ofDamagedUtf8_encode (t : Text) : ofDamagedUtf8 (t.flatMap bytesOf) = t := by
  induction t with
  | nil => rw [List.flatMap_nil, ofDamagedUtf8]
  | cons c t ih => rw [List.flatMap_cons, ofDamagedUtf8_bytesOf, ih]

/-! ## Files -/

theorem toList_loop (bytes : ByteArray) (i : Nat) (front : List UInt8) :
    ByteArray.toList.loop bytes i front = front.reverse ++ bytes.data.toList.drop i := by
  fun_induction ByteArray.toList.loop bytes i front with
  | case1 i front hinside ih =>
    have hbyte : bytes.get! i = bytes.data.toList.get ⟨i, hinside⟩ := getElem!_pos bytes.data i hinside
    rw [ih, List.reverse_cons, List.append_assoc, List.singleton_append, hbyte,
      List.get_eq_getElem, ← List.drop_eq_getElem_cons]
  | case2 i front hbehind =>
    have hnil : bytes.data.toList.drop i = [] := List.drop_eq_nil_of_le (Nat.le_of_not_lt hbehind)
    rw [hnil, List.append_nil]

/-- What is read of a file that is not damaged is its text. -/
theorem ofDamagedUtf8_of_textOfBytes {bytes : ByteArray} {t : Text}
    (h : FileAccess.textOfBytes bytes = .ok t) :
    ofDamagedUtf8 (bytes.toList.map UInt8.toNat) = t := by
  unfold FileAccess.textOfBytes at h
  split at h
  · next s hs =>
    obtain rfl : s.toList = t := Except.ok.inj h
    have hbytes : s.toList.utf8Encode = bytes := by
      unfold String.fromUTF8? at hs
      split at hs
      · rw [String.utf8Encode_toList, ← Option.some.inj hs]
        rfl
      · cases hs
    have hlist : bytes.toList = s.toList.flatMap String.utf8EncodeChar := by
      rw [ByteArray.toList, toList_loop, ← hbytes, List.reverse_nil, List.nil_append, List.drop_zero]
      exact List.toList_data_toByteArray
    rw [hlist, List.map_flatMap]
    exact ofDamagedUtf8_encode s.toList
  · cases h

theorem textOfBytes_bytesOfText (t : Text) :
    FileAccess.textOfBytes (FileAccess.bytesOfText t) = .ok t := by
  have hvalid : (FileAccess.bytesOfText t).IsValidUTF8 := (String.ofList t).isValidUTF8
  have hread : String.fromUTF8? (FileAccess.bytesOfText t) = some (String.ofList t) := by
    unfold String.fromUTF8?
    exact dif_pos hvalid
  rw [FileAccess.textOfBytes, hread]
  exact congrArg _ String.toList_ofList

end Text

end TableScaffold
