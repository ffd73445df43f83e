import TableScaffold.Proofs.Cursor.Advance
import TableScaffold.Proofs.Sql.Statement

set_option autoImplicit false

/-!
# Slices between the places of tokens

The places of a text are turned back into byte offsets (`Text.byteOffset_take`), so the
offsets of the places where tokens begin and end are in order (`inOrder_tokens`).  Every
slice that is cut at them goes forward from one boundary of characters to another:
those of the statements of a schema (`piecesBetween_eq_slices`) and those of the default
expressions of a table (`Cursor.Sound.isSlice`).
-/

namespace TableScaffold

namespace Text

/-! ## Numbers of bytes -/

/-- The number of bytes of a text is that of its encoding. -/
theorem byteCount_eq_size (t : Text) : byteCount t = t.utf8Encode.size := by
  induction t with
  | nil => rfl
  | cons c t ih =>
    have hc : [c].utf8Encode.size = c.utf8Size := by
      rw [List.utf8Encode_singleton, List.size_toByteArray, String.length_utf8EncodeChar]
    rw [List.utf8Encode_cons, ByteArray.size_append, hc, byteCount_cons, ih]

/-- The byte offset of a place is the number of bytes in front of it. -/
theorem byteOffset_take (t : Text) (n : Nat) :
    byteOffset t (Location.start.after (t.take n)) = byteCount (t.take n) := by
  have h := byteOffset_after (t.take n) (t.drop n)
  rwa [List.take_append_drop] at h

theorem byteCount_le_of_prefix {s t : Text} (h : s <+: t) : byteCount s ≤ byteCount t := by
  obtain ⟨r, rfl⟩ := h
  rw [byteCount_append]
  exact Nat.le_add_right _ _

/-- Places further on have greater byte offsets. -/
theorem byteOffset_take_mono (t : Text) {m n : Nat} (h : m ≤ n) :
    byteOffset t (Location.start.after (t.take m))
      ≤ byteOffset t (Location.start.after (t.take n)) := by
  rw [byteOffset_take, byteOffset_take]
  exact byteCount_le_of_prefix (List.take_prefix_take_left h)

theorem takeBytes_of_le {t : Text} {n : Nat} (h : byteCount t ≤ n) : takeBytes n t = t := by
  induction t generalizing n with
  | nil => rfl
  | cons c t ih =>
    have hc := c.utf8Size_pos
    rw [byteCount_cons] at h
    rw [takeBytes, if_neg (by omega), ih (by omega)]

theorem byteCount_dropBytes_le (n : Nat) (t : Text) :
    byteCount (dropBytes n t) ≤ byteCount t - n := by
  fun_induction dropBytes n t with
  | case1 => exact Nat.zero_le _
  | case2 => exact Nat.le_refl _
  | case3 n c t hn ih =>
    rw [byteCount_cons]
    omega

/-- A slice up to the end of a text is all that is left of it. -/
theorem slice_byteCount (t : Text) (first : Nat) :
    slice t first (byteCount t) = dropBytes first t :=
  takeBytes_of_le (byteCount_dropBytes_le first t)

end Text

namespace Sql

/-! ## Slices -/

/-- The bounds of slices are the pairs of boundaries in order. -/
theorem isSlice_iff {t : Text} {first last : Nat} : IsSlice t first last
    ↔ first ≤ last ∧ Text.isBoundary t first = true ∧ Text.isBoundary t last = true := by
  constructor
  · rintro ⟨before, piece, behind, rfl, rfl, rfl⟩
    refine ⟨Nat.le_add_right _ _, Text.isBoundary_append before _, ?_⟩
    rw [← List.append_assoc, ← Text.byteCount_append]
    exact Text.isBoundary_append _ behind
  · rintro ⟨hle, hfirst, hlast⟩
    obtain ⟨before, behind, ht, rfl⟩ := Text.isBoundary_iff.mp hfirst
    obtain ⟨before', behind', ht', rfl⟩ := Text.isBoundary_iff.mp hlast
    rcases List.prefix_or_prefix_of_prefix ⟨behind, ht.symm⟩ ⟨behind', ht'.symm⟩ with h | h
    · obtain ⟨piece, rfl⟩ := h
      exact ⟨before, piece, behind', by rw [ht', List.append_assoc], rfl,
        Text.byteCount_append before piece⟩
    · have heq := Nat.le_antisymm hle (Text.byteCount_le_of_prefix h)
      exact ⟨before, [], behind, ht, rfl, heq.symm⟩

theorem IsSlice.slice?_eq {t : Text} {first last : Nat} (h : IsSlice t first last) :
    Text.slice? t first last = some (Text.slice t first last) :=
  if_pos (isSlice_iff.mp h)

/-- The pieces of a text are the slices between their bounds. -/
theorem piecesBetween_eq_slices (t : Text) (first : Nat) (cuts : List Placed) :
    piecesBetween t first cuts
      = (slicesBetween t first cuts).map fun b => Text.slice t b.1 b.2 := by
  induction cuts generalizing first with
  | nil =>
    rw [slicesBetween, List.map_singleton, Text.slice_byteCount]
    rfl
  | cons cut cuts ih => rw [piecesBetween, slicesBetween, List.map_cons, ih]

theorem exists_place_of_tokens {t : Text} {ts : List Placed} (h : tokens t = .ok ts) :
    ∃ xs, textOf xs = t ∧ place Location.start xs = ts := by
  unfold tokens at h
  cases hlex : lex t with
  | error e => simp [hlex, Except.map] at h
  | ok xs =>
    rw [hlex] at h
    exact ⟨xs, flatten_lex hlex, Except.ok.inj h⟩

/-- The statements of a schema are slices that are not refused. -/
theorem statements_eq_slices {t : Text} {ts : List Placed} (h : tokens t = .ok ts) :
    (∀ b ∈ slicesBetween t 0 (ts.filter (·.token = .semicolon)), IsSlice t b.1 b.2)
      ∧ ∃ pieces, statements t = .ok pieces
        ∧ (slicesBetween t 0 (ts.filter (·.token = .semicolon))).map
          (fun b => Text.slice? t b.1 b.2) = pieces.map some := by
  have hslices : ∀ b ∈ slicesBetween t 0 (ts.filter (·.token = .semicolon)),
      IsSlice t b.1 b.2 := by
    obtain ⟨xs, ht, rfl⟩ := exists_place_of_tokens h
    exact @isSlice_of_mem_slicesBetween t [] [] xs ht
  refine ⟨hslices, piecesBetween t 0 (ts.filter (·.token = .semicolon)), ?_, ?_⟩
  · rw [statements, h]
    rfl
  · rw [piecesBetween_eq_slices, List.map_map]
    exact List.map_congr_left fun b hb => (hslices b hb).slice?_eq

/-! ## Places in order -/

/-- The places where tokens begin and end, in the order of the tokens. -/
def boundaries (ts : List Placed) : List Location := ts.flatMap fun t => [t.first, t.last]

/-- Tokens that begin and end at byte offsets in order. -/
def InOrder (t : Text) (ts : List Placed) : Prop :=
  (boundaries ts).Pairwise fun l l' => Text.byteOffset t l ≤ Text.byteOffset t l'

/-- The numbers of characters in front of the places of lexemes, with `n` of them in front
of all. -/
def positions (n : Nat) : List Lexeme → List Nat
  | [] => []
  | l :: xs => n :: (n + l.text.length) :: positions (n + l.text.length) xs

theorem positions_bounds (n : Nat) (xs : List Lexeme) :
    ∀ k ∈ positions n xs, n ≤ k ∧ k ≤ n + (textOf xs).length := by
  induction xs generalizing n with
  | nil => exact fun _ h => nomatch h
  | cons l xs ih =>
    simp only [positions, List.forall_mem_cons, textOf_cons, List.length_append]
    refine ⟨by omega, by omega, fun k hk => ?_⟩
    have := ih _ k hk
    omega

theorem pairwise_positions (n : Nat) (xs : List Lexeme) :
    (positions n xs).Pairwise (· ≤ ·) := by
  induction xs generalizing n with
  | nil => exact .nil
  | cons l xs ih =>
    have hrest := fun k hk => (positions_bounds (n + l.text.length) xs k hk).1
    refine .cons ?_ (.cons hrest (ih _))
    exact List.forall_mem_cons.mpr
      ⟨Nat.le_add_right _ _, fun k hk => Nat.le_trans (Nat.le_add_right _ _) (hrest k hk)⟩

/-- The places of lexemes, by the characters in front of them. -/
theorem boundaries_place {t before : Text} {xs : List Lexeme} (ht : before ++ textOf xs = t) :
    boundaries (place (Location.start.after before) xs)
      = (positions before.length xs).map fun n => Location.start.after (t.take n) := by
  induction xs generalizing before with
  | nil => rfl
  | cons l xs ih =>
    have hnext : before ++ l.text ++ textOf xs = t := by
      rw [← ht, textOf_cons, List.append_assoc]
    have hfirst : t.take before.length = before := by rw [← ht, List.take_left]
    have hlast : t.take (before.length + l.text.length) = before ++ l.text := by
      rw [← hnext, ← List.length_append, List.take_left]
    have hrest := ih hnext
    rw [Location.after_append, List.length_append] at hrest
    rw [place, positions, List.map_cons, List.map_cons, hfirst, hlast, Location.after_append,
      ← hrest]
    rfl

/-- The tokens of a text, by the characters in front of their places. -/
theorem boundaries_tokens {t : Text} {ts : List Placed} (h : tokens t = .ok ts) :
    ∃ ns : List Nat, boundaries ts = ns.map (fun n => Location.start.after (t.take n))
      ∧ ns.Pairwise (· ≤ ·) ∧ ∀ n ∈ ns, n ≤ t.length := by
  obtain ⟨xs, rfl, rfl⟩ := exists_place_of_tokens h
  refine ⟨positions 0 xs, boundaries_place (List.nil_append _), pairwise_positions 0 xs, ?_⟩
  intro n hn
  rw [← Nat.zero_add (textOf xs).length]
  exact (positions_bounds 0 xs n hn).2

theorem inOrder_tokens {t : Text} {ts : List Placed} (h : tokens t = .ok ts) : InOrder t ts := by
  obtain ⟨ns, hns, horder, -⟩ := boundaries_tokens h
  rw [InOrder, hns, List.pairwise_map]
  exact horder.imp fun hle => Text.byteOffset_take_mono t hle

theorem InOrder.filter {t : Text} {ts : List Placed} (h : InOrder t ts) (p : Placed → Bool) :
    InOrder t (ts.filter p) := by
  obtain ⟨heach, hpairs⟩ := List.pairwise_flatMap.mp h
  exact List.pairwise_flatMap.mpr
    ⟨fun u hu => heach u (List.mem_filter.mp hu).1, hpairs.filter p⟩

/-- No token ends in front of the beginning of an earlier one. -/
theorem InOrder.first_le_last {t : Text} {ts : List Placed} (h : InOrder t ts) {i j : Nat}
    (hij : i ≤ j) {u v : Placed} (hu : ts[i]? = some u) (hv : ts[j]? = some v) :
    Text.byteOffset t u.first ≤ Text.byteOffset t v.last := by
  obtain ⟨heach, hpairs⟩ := List.pairwise_flatMap.mp h
  rcases Nat.eq_or_lt_of_le hij with rfl | hlt
  · obtain rfl := Option.some.inj (hu.symm.trans hv)
    simpa using heach u (List.mem_of_getElem? hu)
  · obtain ⟨hi, rfl⟩ := List.getElem?_eq_some_iff.mp hu
    obtain ⟨hj, rfl⟩ := List.getElem?_eq_some_iff.mp hv
    exact List.pairwise_iff_getElem.mp hpairs i j hi hj hlt _ (by simp) _ (by simp)

end Sql

namespace Cursor

open Sql (Placed IsSlice InOrder boundaries slicesBetween)

/-- The bounds of the slice that the next step takes, if it takes one. -/
def State.slice? (source : Text) (ts : List Placed) (s : State) : Option (Nat × Nat) :=
  match s.point with
  | .expressionText _ first => if s.pos = first then none else bounds? source ts first s.pos
  | _ => none

/-- The slices of default expressions. -/
theorem Sound.isSlice {source : Text} {ts : List Placed} {s : State} (h : Sound ts s)
    (horder : InOrder source ts) : ∀ b ∈ s.slice? source ts, IsSlice source b.1 b.2 := by
  intro b hb
  unfold State.slice? at hb
  split at hb
  · next c first hpoint =>
    have hfits : first ≤ s.pos := by simpa [hpoint, Point.Fits] using h.fits
    split at hb
    · cases hb
    next hne =>
    have hlt : first < s.pos := Nat.lt_of_le_of_ne hfits (Ne.symm hne)
    obtain ⟨u, v, hu, hv, hbounds⟩ := exists_bounds source hlt h.pos_le
    obtain rfl : b = _ := Option.some.inj (hb.symm.trans hbounds)
    have hle := horder.first_le_last (by omega) hu hv
    exact Sql.isSlice_iff.mpr
      ⟨hle, Text.isBoundary_byteOffset source _, Text.isBoundary_byteOffset source _⟩
  · cases hb

/-- Byte offsets undo the places of characters, and the slices that are cut at the places
of tokens go forward from one boundary of characters to another: those of the statements of
a schema and those of the default expressions of a table. -/
theorem byteOffset_of_places :
    (∀ (t : Text) (n : Nat),
      Text.byteOffset t (Location.start.after (t.take n)) = (t.take n).utf8Encode.size)
    ∧ ∀ (t : Text) (ts : List Placed), Sql.tokens t = .ok ts →
      (∃ ns : List Nat, boundaries ts = ns.map (fun n => Location.start.after (t.take n))
        ∧ ns.Pairwise (· ≤ ·) ∧ ∀ n ∈ ns, n ≤ t.length)
      ∧ (boundaries ts).Pairwise (fun l l' => Text.byteOffset t l ≤ Text.byteOffset t l')
      ∧ (∀ b ∈ slicesBetween t 0 (ts.filter (·.token = .semicolon)), IsSlice t b.1 b.2)
      ∧ (∃ pieces, Sql.statements t = .ok pieces
        ∧ (slicesBetween t 0 (ts.filter (·.token = .semicolon))).map
          (fun b => Text.slice? t b.1 b.2) = pieces.map some)
      ∧ ∀ s, Reaches t (ts.filter (·.token ≠ .blank)) .start s →
        s.point ≠ .trapped .noSlice
        ∧ ∀ b ∈ s.slice? t (ts.filter (·.token ≠ .blank)), IsSlice t b.1 b.2 := by
  refine ⟨fun t n => ?_, fun t ts h => ?_⟩
  · rw [Text.byteOffset_take, Text.byteCount_eq_size]
  obtain ⟨hslices, hpieces⟩ := Sql.statements_eq_slices h
  have horder := Sql.inOrder_tokens h
  refine ⟨Sql.boundaries_tokens h, horder, hslices, hpieces, fun s hs => ?_⟩
  have hsound := ((sound_start _).reaches hs).1
  refine ⟨fun htrap => ?_, hsound.isSlice (horder.filter _)⟩
  have hfits := hsound.fits
  rwa [htrap] at hfits

namespace Sample

/-- A schema of two statements with accents, the second one behind a line feed. -/
def accented : Text := "'é'\n;CREATE TABLE IF NOT EXISTS t (a TEXT DEFAULT 'ü' || 'é')".toList

/-- The tokens of that schema. -/
def accentedTokens : List Placed :=
  match Sql.tokens accented with
  | .ok ts => ts
  | .error _ => []

/-- The state in front of the slice of the default expression. -/
def accentedDefault : State :=
  State.start.later accented (accentedTokens.filter (·.token ≠ .blank)) 13

end Sample

theorem byteOffset_of_places_accented :
    Sql.tokens Sample.accented = .ok Sample.accentedTokens
      ∧ Text.byteOffset Sample.accented ⟨2, 1⟩ = 5
      ∧ (slicesBetween Sample.accented 0 (Sample.accentedTokens.filter (·.token = .semicolon))
          = [(0, 5), (6, 64)] ∧ IsSlice Sample.accented 0 5 ∧ IsSlice Sample.accented 6 64)
      ∧ Sample.accentedDefault.slice? Sample.accented
          (Sample.accentedTokens.filter (·.token ≠ .blank)) = some (51, 63)
      ∧ IsSlice Sample.accented 51 63 := by
  have htokens : Sql.tokens Sample.accented = .ok Sample.accentedTokens := by decide +kernel
  have hbounds : slicesBetween Sample.accented 0
      (Sample.accentedTokens.filter (·.token = .semicolon)) = [(0, 5), (6, 64)] := by
    decide +kernel
  have hdefault : Sample.accentedDefault.slice? Sample.accented
      (Sample.accentedTokens.filter (·.token ≠ .blank)) = some (51, 63) := by
    decide +kernel
  obtain ⟨hoffset, hall⟩ := byteOffset_of_places
  obtain ⟨-, -, hslices, -, hreached⟩ := hall _ _ htokens
  rw [hbounds] at hslices
  have hline : Text.byteOffset Sample.accented ⟨2, 1⟩ = 5 :=
    (hoffset Sample.accented 4).trans (by decide)
  exact ⟨htokens, hline, ⟨hbounds, hslices (0, 5) (by simp), hslices (6, 64) (by simp)⟩, hdefault,
    (hreached _ (reaches_later _ _ 13 .start)).2 _ hdefault⟩

end Cursor

end TableScaffold
