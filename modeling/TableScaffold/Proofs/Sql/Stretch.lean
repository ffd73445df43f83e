import Mathlib.Data.Bool.Basic
import TableScaffold.Sql.Quoted

set_option autoImplicit false

/-!
# Quoted stretches in front of other text

A string, a dollar quote or a comment that is closed within a piece of a text is
read alike whatever follows the piece, and one that is read as closed within the
piece is closed in the piece taken by itself.  Both directions are one statement
for each reader: reading `x ++ d :: r` and ending within `x` is the same as
reading `x`, for a character `d` that the stretch could not go on with.
-/

namespace TableScaffold.Sql

open Text (hexDigit? isHexDigit isOctalDigit numeral?)

variable {d : Char}

/-! ## Ending within a size -/

section Within

variable {α : Type} {size : Nat} {o o' : Option α} (length : α → Nat)

/-- A reader that goes past the end has read nothing that is within it. -/
theorem none_within (h : ∀ a, o = some a → size < length a) (b : α) :
    o = some b ∧ length b ≤ size ↔ none = some b := by
  constructor
  · rintro ⟨hb, hle⟩
    have hlt := h b hb
    omega
  · intro h
    contradiction

theorem some_within {a : α} (h : length a ≤ size) (b : α) :
    some a = some b ∧ length b ≤ size ↔ some a = some b := by
  constructor
  · rintro ⟨hb, -⟩
    exact hb
  · intro hb
    obtain rfl := Option.some.inj hb
    exact ⟨rfl, h⟩

/-- Readers that agree within `size` agree, `k` characters further on, within
`size + k`. -/
theorem map_within {f : α → α} (k : Nat) (hf : ∀ a, length (f a) = length a + k)
    (h : ∀ a, o = some a ∧ length a ≤ size ↔ o' = some a) (b : α) :
    o.map f = some b ∧ length b ≤ size + k ↔ o'.map f = some b := by
  simp only [Option.map_eq_some_iff]
  constructor
  · rintro ⟨⟨a, ha, rfl⟩, hle⟩
    rw [hf] at hle
    exact ⟨a, (h a).mp ⟨ha, Nat.le_of_add_le_add_right hle⟩, rfl⟩
  · rintro ⟨a, ha, rfl⟩
    obtain ⟨ha, hle⟩ := (h a).mpr ha
    rw [hf]
    exact ⟨⟨a, ha, rfl⟩, Nat.add_le_add_right hle k⟩

/-- What begins with more than `size` characters is not within it. -/
theorem map_beyond {f : α → α} (k : Nat) (hf : ∀ a, length (f a) = length a + k)
    (hk : size < k) (b : α) : o.map f = some b ∧ length b ≤ size ↔ none = some b := by
  refine none_within length ?_ b
  intro a ha
  obtain ⟨m, -, rfl⟩ := Option.map_eq_some_iff.mp ha
  rw [hf]
  omega

end Within

/-- A front without `d` reaches into `x ++ d :: r` no further than `x`. -/
theorem isPrefixOf_append {p : Text} (hd : d ∉ p) (x r : Text) :
    p.isPrefixOf (x ++ d :: r) = p.isPrefixOf x := by
  induction p generalizing x with
  | nil => simp
  | cons c p ih =>
    simp only [List.mem_cons, not_or] at hd
    cases x with
    | nil => simp [List.isPrefixOf, Ne.symm hd.1]
    | cons e x => simp [List.isPrefixOf, ih hd.2]

/-! ## Strings -/

theorem quotedValue_pos {q : Char} {x v : Text} {n : Nat} (h : quotedValue q x = some (v, n)) :
    0 < n := by
  fun_cases quotedValue q x <;> grind [quotedValue, Option.map_eq_some_iff]

theorem quotedValue_append {q : Char} (hd : d ≠ q) (x r v : Text) (n : Nat) :
    quotedValue q (x ++ d :: r) = some (v, n) ∧ n ≤ x.length ↔ quotedValue q x = some (v, n) := by
  have hnil (s : Text) (p : Text × Nat) : quotedValue q s = some p ∧ p.2 ≤ 0 ↔ none = some p :=
    none_within Prod.snd (fun _ => quotedValue_pos) p
  fun_induction quotedValue q x generalizing v n with
  | case1 => exact hnil (d :: r) (v, n)
  | case2 =>
    simp only [List.cons_append, List.nil_append, quotedValue, if_neg hd, ↓reduceIte]
    exact some_within Prod.snd (Nat.le_refl 1) (v, n)
  | case3 c hc =>
    -- the string goes on, so it takes what stands behind the text
    simp only [List.cons_append, List.nil_append, quotedValue, if_neg hc]
    exact map_within Prod.snd 1 (fun _ => rfl) (hnil (d :: r)) (v, n)
  | case4 y ih =>
    simp only [List.cons_append, quotedValue, ↓reduceIte]
    exact map_within Prod.snd 2 (fun _ => rfl) (fun a => ih a.1 a.2) (v, n)
  | case5 e y he =>
    simp only [List.cons_append, quotedValue, if_neg he, ↓reduceIte]
    exact some_within Prod.snd (Nat.le_add_left 1 _) (v, n)
  | case6 c e y hc ih =>
    simp only [List.cons_append, quotedValue, if_neg hc]
    exact map_within Prod.snd 1 (fun _ => rfl) (fun a => ih a.1 a.2) (v, n)

theorem quotedLength_append {q : Char} (hd : d ≠ q) (x r : Text) (n : Nat) :
    quotedLength q (x ++ d :: r) = some n ∧ n ≤ x.length ↔ quotedLength q x = some n := by
  simp only [quotedLength, Option.map_eq_some_iff, Prod.exists, exists_eq_right]
  constructor
  · rintro ⟨⟨v, hv⟩, hn⟩
    exact ⟨v, (quotedValue_append hd x r v n).mp ⟨hv, hn⟩⟩
  · rintro ⟨v, hv⟩
    obtain ⟨hv, hn⟩ := (quotedValue_append hd x r v n).mpr hv
    exact ⟨⟨v, hv⟩, hn⟩

theorem backslashedLength_pos {q : Char} {x : Text} {n : Nat}
    (h : backslashedLength q x = some n) : 0 < n := by
  fun_cases backslashedLength q x <;> grind [backslashedLength, Option.map_eq_some_iff]

theorem backslashedLength_append {q : Char} (hq : q ≠ '\\') (hd : d ≠ q) (x r : Text) (n : Nat) :
    backslashedLength q (x ++ d :: r) = some n ∧ n ≤ x.length ↔ backslashedLength q x = some n := by
  have hnil (s : Text) : ∀ n, backslashedLength q s = some n ∧ n ≤ 0 ↔ none = some n :=
    none_within id fun _ => backslashedLength_pos
  fun_induction backslashedLength q x generalizing n with
  | case1 => exact hnil (d :: r) n
  | case2 =>
    simp only [List.cons_append, List.nil_append, backslashedLength, if_neg hq, if_neg hd,
      ↓reduceIte]
    exact some_within id (Nat.le_refl 1) n
  | case3 c hc =>
    rw [List.cons_append, List.nil_append, backslashedLength]
    by_cases hback : c = '\\'
    · rw [if_pos hback]
      exact map_beyond id 2 (fun _ => rfl) (Nat.lt_succ_self 1) n
    · rw [if_neg hback, if_neg hc]
      exact map_within id 1 (fun _ => rfl) (hnil (d :: r)) n
  | case4 e y ih =>
    simp only [List.cons_append, backslashedLength, ↓reduceIte]
    exact map_within id 2 (fun _ => rfl) ih n
  | case5 y hback ih =>
    simp only [List.cons_append, backslashedLength, if_neg hback, ↓reduceIte]
    exact map_within id 2 (fun _ => rfl) ih n
  | case6 e y he hback =>
    simp only [List.cons_append, backslashedLength, if_neg hback, if_neg he, ↓reduceIte]
    exact some_within id (Nat.le_add_left 1 _) n
  | case7 c e y hback hc ih =>
    simp only [List.cons_append, backslashedLength, if_neg hback, if_neg hc]
    exact map_within id 1 (fun _ => rfl) ih n

/-! ## Escape strings -/

/-- A text with a character that is no digit is no numeral. -/
theorem numeral?_eq_none {base : Nat} {t : Text} (hmem : d ∈ t) (hd : hexDigit? d = none) :
    numeral? base t = none := by
  have hnone : ∀ (t : Text) (acc : Option Nat), acc = none ∨ d ∈ t →
      t.foldl (Text.pushDigit? base) acc = none := by
    intro t
    induction t with
    | nil => simp
    | cons c t ih =>
      intro acc h
      rw [List.foldl_cons]
      apply ih
      by_cases hc : d = c
      · left
        cases acc with
        | none => rfl
        | some n => rw [← hc, Text.pushDigit?, hd, Option.map_none]
      · rcases h with h | h
        · left
          rw [h, Text.pushDigit?]
        · right
          simpa [hc] using h
  exact hnone t (some 0) (Or.inr hmem)

theorem hexDigit?_eq_none (hd : isHexDigit d = false) : hexDigit? d = none := by
  simpa [isHexDigit] using hd

/-- A code point escape takes hexadecimal digits only. -/
theorem codePointLength?_append (width : Nat) (hd : isHexDigit d = false) (hplus : d ≠ '+')
    (x r : Text) : codePointLength? width (x ++ d :: r) = codePointLength? width x := by
  by_cases hlen : width ≤ x.length
  · rw [codePointLength?, codePointLength?, List.take_append_of_le_length hlen]
  · -- the digits would have to include `d`
    have hmem : d ∈ (x ++ d :: r).take width := by
      obtain ⟨k, hk⟩ : ∃ k, width = x.length + (k + 1) := ⟨width - x.length - 1, by omega⟩
      rw [hk, List.take_length_add_append]
      simp
    have hunsigned : ∀ t : Text, d ∈ t → d ∈ (if t.head? = some '+' then t.tail else t) := by
      intro t ht
      split
      · cases t with
        | nil => exact ht
        | cons c t =>
          simp_all
      · exact ht
    have hshort : (x.take width).length < width := by
      rw [List.length_take]
      omega
    rw [codePointLength?, codePointLength?, if_pos hshort]
    simp only [numeral?_eq_none (hunsigned _ hmem) (hexDigit?_eq_none hd), ite_self]

/-- The escape behind a backslash takes nothing of what a delimiter begins. -/
theorem escapeLength?_append (hd : isHexDigit d = false) (hplus : d ≠ '+')
    (hoctal : isOctalDigit d = false) (e : Char) (x r : Text) :
    escapeLength? e (x ++ d :: r) = escapeLength? e x := by
  have htake : ∀ p : Char → Bool, p d = false →
      ((x ++ d :: r).take 2).takeWhile p = (x.take 2).takeWhile p := by
    intro p hp
    rcases x with _ | ⟨a, _ | ⟨b, x⟩⟩
    · simp [hp]
    · simp [List.takeWhile_cons, hp]
    · simp
  unfold escapeLength?
  simp only [codePointLength?_append _ hd hplus, htake _ hd, htake _ hoctal]

theorem escapeLength?_le {e : Char} {x : Text} {n : Nat} (h : escapeLength? e x = some n) :
    n ≤ x.length := by
  have hpoint : ∀ width, codePointLength? width x = some n → n ≤ x.length := by
    intro width hw
    unfold codePointLength? at hw
    grind
  have htake : ∀ p : Char → Bool, ((x.take 2).takeWhile p).length ≤ x.length := by
    intro p
    have h₁ := (List.takeWhile_prefix (l := x.take 2) p).length_le
    have h₂ := List.length_take_le' 2 x
    omega
  unfold escapeLength? at h
  grind

theorem escapeStringLength_pos {x : Text} {n : Nat} (h : escapeStringLength x = some n) :
    0 < n := by
  fun_cases escapeStringLength x <;> grind [escapeStringLength, Option.map_eq_some_iff]

/-- What delimits escapes: no digit of an escaped code, no letter that opens an
escape, and neither quote nor backslash. -/
structure EscapeEnd (d : Char) : Prop where
  not_hex : isHexDigit d = false
  not_octal : isOctalDigit d = false
  not_plus : d ≠ '+'
  not_quote : d ≠ '\''
  not_backslash : d ≠ '\\'

theorem escapeStringLength_append (hd : EscapeEnd d) (x r : Text) (n : Nat) :
    escapeStringLength (x ++ d :: r) = some n ∧ n ≤ x.length ↔ escapeStringLength x = some n := by
  have hesc := escapeLength?_append hd.not_hex hd.not_plus hd.not_octal
  have hquote := hd.not_quote
  have hnil (s : Text) : ∀ n, escapeStringLength s = some n ∧ n ≤ 0 ↔ none = some n :=
    none_within id fun _ => escapeStringLength_pos
  fun_induction escapeStringLength x generalizing n with
  | case1 => exact hnil (d :: r) n
  | case2 =>
    simp only [List.cons_append, List.nil_append, escapeStringLength, if_neg hquote, ↓reduceIte]
    exact some_within id (Nat.le_refl 1) n
  | case3 c hc =>
    rw [List.cons_append, List.nil_append, escapeStringLength, if_neg hc]
    by_cases hback : c = '\\'
    · rw [if_pos hback]
      cases escapeLength? d r with
      | none => simp
      | some k => exact map_beyond id (k + 2) (fun _ => rfl) (Nat.lt_add_left k Nat.one_lt_two) n
    · rw [if_neg hback]
      exact map_within id 1 (fun _ => rfl) (hnil (d :: r)) n
  | case4 y ih =>
    simp only [List.cons_append, escapeStringLength, ↓reduceIte]
    exact map_within id 2 (fun _ => rfl) ih n
  | case5 e y he =>
    simp only [List.cons_append, escapeStringLength, if_neg he, ↓reduceIte]
    exact some_within id (Nat.le_add_left 1 _) n
  | case6 e y k hk hback ih =>
    have hle : k ≤ y.length := escapeLength?_le hk
    have hsize : (e :: y).length + 1 = (y.drop k).length + (k + 2) := by
      rw [List.length_cons, List.length_drop]
      omega
    rw [List.cons_append, List.cons_append, escapeStringLength, if_neg hback, if_pos rfl, hesc, hk]
    simp only [List.drop_append_of_le_length hle]
    rw [List.length_cons, hsize]
    exact map_within id (k + 2) (fun _ => rfl) ih n
  | case7 e y hnone hback =>
    rw [List.cons_append, List.cons_append, escapeStringLength, if_neg hback, if_pos rfl, hesc,
      hnone]
    simp
  | case8 c e y hc hback ih =>
    simp only [List.cons_append, escapeStringLength, if_neg hc, if_neg hback]
    exact map_within id 1 (fun _ => rfl) ih n

/-! ## Unicode strings -/

theorem codePoint_append (hd : isHexDigit d = false) (width value : Nat) (x r : Text) (n : Nat) :
    codePoint width value (x ++ d :: r) = .ok n ↔ codePoint width value x = .ok n := by
  fun_induction codePoint width value x with
  | case1 value x hvalue => rw [codePoint, if_pos hvalue]
  | case2 value x hvalue =>
    rw [codePoint, if_neg hvalue]
  | case3 value width =>
    -- the delimiter stands where the next digit would
    rw [List.nil_append, codePoint, hexDigit?_eq_none hd]
    simp
  | case4 value width c x hdigit =>
    rw [List.cons_append, codePoint, hdigit]
  | case5 value width c x digit hdigit m hm ih =>
    rw [List.cons_append, codePoint, hdigit]
    simp only
    rw [← hm, ← ih]
    cases codePoint width (value * 16 + digit) (x ++ d :: r) <;> simp
  | case6 value width c x digit hdigit fault k herror ih =>
    rw [List.cons_append, codePoint, hdigit]
    simp only
    rw [herror] at ih
    cases h : codePoint width (value * 16 + digit) (x ++ d :: r) with
    | ok m => simp_all
    | error e => simp

theorem le_length_of_codePoint {width value n : Nat} {x : Text}
    (h : codePoint width value x = .ok n) : width ≤ x.length := by
  fun_induction codePoint width value x <;> grind [codePoint]

theorem shiftCount_eq_ok {k n : Nat} {x : Except (LexFault × Nat) Nat} :
    shiftCount k x = .ok n ↔ ∃ m, x = .ok m ∧ m + k = n := by
  cases x <;> simp [shiftCount]

theorem shiftCount_within {size : Nat} {o o' : Except (LexFault × Nat) Nat} (k : Nat)
    (h : ∀ n, o = .ok n ∧ n ≤ size ↔ o' = .ok n) (n : Nat) :
    shiftCount k o = .ok n ∧ n ≤ size + k ↔ shiftCount k o' = .ok n := by
  simp only [shiftCount_eq_ok]
  constructor
  · rintro ⟨⟨m, hm, rfl⟩, hle⟩
    exact ⟨m, (h m).mp ⟨hm, Nat.le_of_add_le_add_right hle⟩, rfl⟩
  · rintro ⟨m, hm, rfl⟩
    obtain ⟨hm, hle⟩ := (h m).mpr hm
    exact ⟨⟨m, hm, rfl⟩, Nat.add_le_add_right hle k⟩

theorem unicodeStringLength_pos {x : Text} {n : Nat} (h : unicodeStringLength x = .ok n) :
    0 < n := by
  rw [unicodeStringLength.eq_def] at h
  grind [shiftCount_eq_ok]

theorem unicodeStringLength_quote {x : Text} (h : ∀ r, x ≠ '\'' :: r) :
    unicodeStringLength ('\'' :: x) = .ok 1 := by
  rw [unicodeStringLength.eq_def]
  cases x <;> grind

theorem unicodeStringLength_code {x : Text} (hback : ∀ r, x ≠ '\\' :: r)
    (hplus : ∀ r, x ≠ '+' :: r) :
    unicodeStringLength ('\\' :: x) = match codePoint 4 0 x with
      | .ok _ => shiftCount 5 (unicodeStringLength (x.drop 4))
      | .error (fault, k) => .error (fault, k + 1) := by
  rw [unicodeStringLength.eq_def]
  cases x <;> grind

/-- What a text does not begin with, it does not begin with in front of something
else either. -/
theorem append_ne_cons {x r : Text} {c : Char} (h : ∀ s, x ≠ c :: s) (hd : d ≠ c) (s : Text) :
    x ++ d :: r ≠ c :: s := by
  cases x with
  | nil => simp [hd]
  | cons e x =>
    have := h x
    simp_all

theorem unicodeStringLength_append (hd : EscapeEnd d) (x r : Text) (n : Nat) :
    unicodeStringLength (x ++ d :: r) = .ok n ∧ n ≤ x.length ↔ unicodeStringLength x = .ok n := by
  have hcode (width value : Nat) (y : Text) (n : Nat) :
      codePoint width value (y ++ d :: r) = .ok n ↔ codePoint width value y = .ok n :=
    codePoint_append hd.not_hex width value y r n
  fun_induction unicodeStringLength x generalizing n with
  | case1 =>
    constructor
    · rintro ⟨h, hle⟩
      exact absurd (unicodeStringLength_pos h) (Nat.not_lt.mpr hle)
    · intro h
      contradiction
  | case2 y ih =>
    rw [List.cons_append, List.cons_append, unicodeStringLength.eq_def]
    simp only [↓reduceIte]
    exact shiftCount_within 2 ih n
  | case3 y hy =>
    rw [List.cons_append, unicodeStringLength_quote (append_ne_cons hy hd.not_quote)]
    refine and_iff_left_of_imp fun h => ?_
    obtain rfl := Except.ok.inj h
    exact Nat.le_add_left 1 _
  | case4 y hback ih =>
    rw [List.cons_append, List.cons_append, unicodeStringLength.eq_def]
    simp only [if_neg hback, ↓reduceIte]
    exact shiftCount_within 2 ih n
  | case5 y v hok hback ih =>
    have hle : 6 ≤ y.length := le_length_of_codePoint hok
    have hsize : ('\\' :: '+' :: y).length = (y.drop 6).length + 8 := by
      rw [List.length_cons, List.length_cons, List.length_drop]
      omega
    rw [hsize, List.cons_append, List.cons_append, unicodeStringLength.eq_def]
    simp only [if_neg hback, ↓reduceIte, (hcode 6 0 y v).mpr hok, List.drop_append_of_le_length hle]
    exact shiftCount_within 8 ih n
  | case6 y fault k herror hback =>
    rw [List.cons_append, List.cons_append, unicodeStringLength.eq_def]
    simp only [if_neg hback, ↓reduceIte]
    cases h : codePoint 6 0 (y ++ d :: r) with
    | ok v => simp [(hcode 6 0 y v).mp h] at herror
    | error e => simp
  | case7 y hback hplus v hok _ ih =>
    have hle : 4 ≤ y.length := le_length_of_codePoint hok
    have hsize : ('\\' :: y).length = (y.drop 4).length + 5 := by
      rw [List.length_cons, List.length_drop]
      omega
    rw [hsize, List.cons_append, unicodeStringLength_code (append_ne_cons hback hd.not_backslash)
      (append_ne_cons hplus hd.not_plus), (hcode 4 0 y v).mpr hok,
      List.drop_append_of_le_length hle]
    exact shiftCount_within 5 ih n
  | case8 y hback hplus fault k herror =>
    rw [List.cons_append, unicodeStringLength_code (append_ne_cons hback hd.not_backslash)
      (append_ne_cons hplus hd.not_plus)]
    cases h : codePoint 4 0 (y ++ d :: r) with
    | ok v => simp [(hcode 4 0 y v).mp h] at herror
    | error e => simp
  | case9 c y hquote hback ih =>
    rw [List.cons_append, unicodeStringLength.eq_def]
    simp only [if_neg hquote, if_neg hback]
    exact shiftCount_within 1 ih n

/-! ## Dollar quotes -/

theorem doubleDollarLength_pos {dollar : Bool} {x : Text} {n : Nat}
    (h : doubleDollarLength dollar x = some n) : 0 < n := by
  cases x <;> grind [doubleDollarLength, Option.map_eq_some_iff]

theorem doubleDollarLength_append (dollar : Bool) (x r : Text) (n : Nat) :
    doubleDollarLength dollar (x ++ d :: r) = some n ∧ n ≤ x.length
      ↔ doubleDollarLength dollar x = some n := by
  fun_induction doubleDollarLength dollar x generalizing n with
  | case1 => exact none_within id (fun _ => doubleDollarLength_pos) n
  | case2 dollar c y hc =>
    rw [List.cons_append, doubleDollarLength, if_pos hc]
    exact some_within id (Nat.le_add_left 1 _) n
  | case3 dollar c y hc ih =>
    rw [List.cons_append, doubleDollarLength, if_neg hc]
    exact map_within id 1 (fun _ => rfl) ih n

theorem throughDelimiter_pos {delimiter x : Text} {n : Nat} (hne : delimiter ≠ [])
    (h : throughDelimiter delimiter x = some n) : 0 < n := by
  cases x <;> grind [throughDelimiter, Option.map_eq_some_iff]

theorem throughDelimiter_append {delimiter : Text} (hne : delimiter ≠ []) (hd : d ∉ delimiter)
    (x r : Text) (n : Nat) :
    throughDelimiter delimiter (x ++ d :: r) = some n ∧ n ≤ x.length
      ↔ throughDelimiter delimiter x = some n := by
  fun_induction throughDelimiter delimiter x generalizing n with
  | case1 => exact none_within id (fun _ => throughDelimiter_pos hne) n
  | case2 c y hbegins =>
    have hlen := (List.isPrefixOf_iff_prefix.mp hbegins).length_le
    rw [List.cons_append, throughDelimiter, ← List.cons_append, isPrefixOf_append hd,
      if_pos hbegins]
    exact some_within id hlen n
  | case3 c y hbegins ih =>
    rw [List.cons_append, throughDelimiter, ← List.cons_append, isPrefixOf_append hd,
      if_neg hbegins]
    exact map_within id 1 (fun _ => rfl) ih n

/-! ## Comments -/

theorem lineCommentLength_le (x : Text) : lineCommentLength x ≤ x.length := by
  induction x with
  | nil => exact Nat.le_refl 0
  | cons c x ih =>
    rw [lineCommentLength, List.length_cons]
    split <;> omega

/-- A line comment ends at its line end, and without one it goes on. -/
theorem lineCommentLength_append (x r : Text) :
    lineCommentLength (x ++ d :: r) ≤ x.length ↔ ∃ c ∈ x, c = '\n' ∨ c = '\r' := by
  induction x with
  | nil =>
    rw [List.nil_append, lineCommentLength, List.length_nil]
    split <;> simp
  | cons c x ih =>
    rw [List.cons_append, lineCommentLength, List.length_cons]
    split <;> grind

theorem lineCommentLength_append_eq {x : Text} (r : Text) (h : ∃ c ∈ x, c = '\n' ∨ c = '\r') :
    lineCommentLength (x ++ r) = lineCommentLength x := by
  induction x with
  | nil => simp at h
  | cons c x ih =>
    rw [List.cons_append, lineCommentLength, lineCommentLength]
    split <;> grind

theorem lineCommentLength_eq_length {x : Text} (h : ∀ c ∈ x, c ≠ '\n' ∧ c ≠ '\r') :
    lineCommentLength x = x.length := by
  induction x with
  | nil => rfl
  | cons c x ih =>
    have hc := h c List.mem_cons_self
    rw [lineCommentLength, ih fun e he => h e (List.mem_cons_of_mem c he)]
    simp [hc]

theorem blockCommentLength_pos {depth : Nat} {x : Text} {n : Nat}
    (h : blockCommentLength depth x = some n) : 1 < n := by
  fun_induction blockCommentLength depth x generalizing n <;> grind [Option.map_eq_some_iff]

theorem blockCommentLength_append (depth : Nat) (x r : Text) (n : Nat) :
    blockCommentLength depth (x ++ d :: r) = some n ∧ n ≤ x.length
      ↔ blockCommentLength depth x = some n := by
  fun_induction blockCommentLength depth x generalizing n with
  | case1 => exact none_within id (fun _ h => Nat.lt_of_succ_lt (blockCommentLength_pos h)) n
  | case2 => exact none_within id (fun _ => blockCommentLength_pos) n
  | case3 depth c e y hopen ih =>
    rw [List.cons_append, List.cons_append, blockCommentLength.eq_def]
    simp only [if_pos hopen]
    exact map_within id 2 (fun _ => rfl) ih n
  | case4 c e y hopen hclose =>
    rw [List.cons_append, List.cons_append, blockCommentLength, if_neg hopen, if_pos hclose]
    exact some_within id (Nat.le_add_left 2 _) n
  | case5 c e y hopen hclose depth ih =>
    rw [List.cons_append, List.cons_append, blockCommentLength, if_neg hopen, if_pos hclose]
    exact map_within id 2 (fun _ => rfl) ih n
  | case6 depth c e y hopen hclose ih =>
    rw [List.cons_append, List.cons_append, blockCommentLength.eq_def]
    simp only [if_neg hopen, if_neg hclose]
    exact map_within id 1 (fun _ => rfl) ih n

end TableScaffold.Sql
