import TableScaffold.Proofs.Sql.Append

set_option autoImplicit false

/-!
# Stretches over a gap

A string, a dollar quote or a comment may go on over a gap of white space.  Where what
stands behind the gap begins with white space too, or is nothing, the gap does not change
where the stretch ends, whether it is left out or put in: white space is special to no
reader, and it keeps the marks on its two sides apart.  `Spans` says so of a reader with and
without the gap, and each reader of a stretch has one lemma that says it spans.
-/

namespace TableScaffold.Sql

open Text (isBlank isHexDigit isOctalDigit hexDigit?)

/-! ## White space -/

/-- The characters that are white space. -/
def blanks : List Char :=
  ([9, 10, 11, 12, 13, 32, 0x85, 0xA0, 0x1680, 0x2000, 0x2001, 0x2002, 0x2003, 0x2004, 0x2005,
    0x2006, 0x2007, 0x2008, 0x2009, 0x200A, 0x2028, 0x2029, 0x202F, 0x205F, 0x3000] : List Nat).map
    Char.ofNat

theorem mem_blanks {c : Char} (h : isBlank c) : c ∈ blanks := by
  rw [← Char.ofNat_toNat c]
  refine List.mem_map_of_mem ?_
  simp only [isBlank, Bool.or_eq_true, Bool.and_eq_true, decide_eq_true_eq, beq_iff_eq] at h
  generalize c.toNat = n at h
  simp only [List.mem_cons, List.not_mem_nil, or_false]
  omega

/-- White space is none of the marks that readers look for. -/
theorem ne_of_isBlank {c : Char} (h : isBlank c) :
    ∀ e ∈ ['\'', '"', '\\', '$', '*', '/', '-', '&', '+', '.'], c ≠ e :=
  (by decide : ∀ c ∈ blanks, ∀ e ∈ ['\'', '"', '\\', '$', '*', '/', '-', '&', '+', '.'], c ≠ e) c
    (mem_blanks h)

theorem not_isHexDigit_of_isBlank {c : Char} (h : isBlank c) : isHexDigit c = false :=
  (by decide : ∀ c ∈ blanks, isHexDigit c = false) c (mem_blanks h)

theorem not_isTagChar_of_isBlank {c : Char} (h : isBlank c) : isTagChar c = false :=
  (by decide +kernel : ∀ c ∈ blanks, isTagChar c = false) c (mem_blanks h)

/-- The escape of a white space character is that character. -/
theorem escapeLength?_of_isBlank {c : Char} (h : isBlank c) (r : Text) :
    escapeLength? c r = some 0 := by
  have hplain : ∀ c ∈ blanks, c ≠ 'u' ∧ c ≠ 'U' ∧ c ≠ 'x' ∧ isOctalDigit c = false ∧ c ≠ '\x00' := by
    decide
  obtain ⟨hu, hU, hx, hoctal, hnul⟩ := hplain c (mem_blanks h)
  rw [escapeLength?, if_neg hu, if_neg hU, if_neg hx, hoctal, if_neg Bool.false_ne_true, if_neg hnul]

/-- A text that is empty or begins with white space. -/
def BeginsBlank (t : Text) : Prop := ∀ c ∈ t.head?, isBlank c

theorem BeginsBlank.append {g s : Text} (hg : ∀ c ∈ g, isBlank c) (hs : BeginsBlank s) :
    BeginsBlank (g ++ s) := by
  cases g with
  | nil => exact hs
  | cons c g =>
    intro e he
    obtain rfl : c = e := Option.some.inj he
    exact hg c List.mem_cons_self

/-- A text that begins with white space does not begin with a mark. -/
theorem BeginsBlank.head?_ne {t : Text} (h : BeginsBlank t) {e : Char} (he : isBlank e = false) :
    t.head? ≠ some e := by
  intro ht
  have := h e ht
  rw [he] at this
  contradiction

/-! ## Spanning a gap -/

/-- `o` is the length that is read of `size` characters, a gap and `s`, and `o'` the one
without the gap: nothing is read, or what is read ends within the first characters, or else
it spans the gap. -/
inductive Spans (size gap : Nat) (s : Text) : Option Nat → Option Nat → Prop where
  | none : Spans size gap s none none
  | within {n : Nat} (h : n ≤ size) : Spans size gap s (some n) (some n)
  | past {n n' : Nat} (k : Nat) (hs : s ≠ []) (hn : n = size + gap + k) (hn' : n' = size + k) :
    Spans size gap s (some n) (some n')

theorem Spans.map {size gap : Nat} {s : Text} {o o' : Option Nat} (j : Nat)
    (h : Spans size gap s o o') :
    Spans (size + j) gap s (o.map (· + j)) (o'.map (· + j)) := by
  cases h with
  | none => exact .none
  | within h => exact .within (Nat.add_le_add_right h j)
  | past k hs hn hn' =>
    refine .past k hs ?_ ?_
    · change _ + j = _
      omega
    · change _ + j = _
      omega

variable {g s : Text}

/-- A reader that takes white space as it is spans a gap at the front. -/
theorem spans_gap {f : Text → Option Nat} (hnil : f [] = none)
    (hskip : ∀ c t, isBlank c → f (c :: t) = (f t).map (· + 1)) (hg : ∀ c ∈ g, isBlank c) :
    Spans 0 g.length s (f (g ++ s)) (f s) := by
  have hgap : f (g ++ s) = (f s).map (· + g.length) := by
    induction g with
    | nil => simp
    | cons c g ih =>
      rw [List.forall_mem_cons] at hg
      rw [List.cons_append, hskip c _ hg.1, ih hg.2, Option.map_map]
      rfl
  rw [hgap]
  cases hf : f s with
  | none => exact .none
  | some k =>
    refine .past k ?_ ?_ (Nat.zero_add k).symm
    · rintro rfl
      rw [hnil] at hf
      cases hf
    · rw [Nat.zero_add, Nat.add_comm]

/-! ## Strings -/

theorem quotedLength_skip {q c : Char} (h : c ≠ q) (t : Text) :
    quotedLength q (c :: t) = (quotedLength q t).map (· + 1) := by
  cases t <;> simp [quotedLength, quotedValue, h, Function.comp_def]

theorem quotedLength_pair (q : Char) (t : Text) :
    quotedLength q (q :: q :: t) = (quotedLength q t).map (· + 2) := by
  simp [quotedLength, quotedValue, Function.comp_def]

theorem quotedLength_close {q : Char} {t : Text} (h : t.head? ≠ some q) :
    quotedLength q (q :: t) = some 1 := by
  cases t <;> simp_all [quotedLength, quotedValue]

theorem quotedLength_spans {q : Char} (hq : isBlank q = false) (hg : ∀ c ∈ g, isBlank c)
    (hs : BeginsBlank s) (x : Text) :
    Spans x.length g.length s (quotedLength q (x ++ (g ++ s))) (quotedLength q (x ++ s)) := by
  have hnil : Spans 0 g.length s (quotedLength q (g ++ s)) (quotedLength q s) :=
    spans_gap rfl (fun c t hc => quotedLength_skip (fun h => by simp [h, hq] at hc) t) hg
  fun_induction quotedValue q x with
  | case1 => exact hnil
  | case2 =>
    rw [List.singleton_append, List.singleton_append,
      quotedLength_close ((BeginsBlank.append hg hs).head?_ne hq),
      quotedLength_close (hs.head?_ne hq)]
    exact .within (Nat.le_refl 1)
  | case3 c hc =>
    rw [List.singleton_append, List.singleton_append, quotedLength_skip hc, quotedLength_skip hc]
    exact hnil.map 1
  | case4 y ih =>
    simp only [List.cons_append, quotedLength_pair]
    exact ih.map 2
  | case5 d y hd =>
    have hclose (t : Text) : quotedLength q (q :: d :: y ++ t) = some 1 :=
      quotedLength_close (by simpa using hd)
    rw [hclose, hclose]
    exact .within (Nat.le_add_left 1 _)
  | case6 c d y hc ih =>
    rw [List.cons_append (a := c), List.cons_append (a := c), quotedLength_skip hc,
      quotedLength_skip hc]
    exact ih.map 1

theorem backslashedLength_skip {q c : Char} (h : c ≠ q) (hback : c ≠ '\\') (t : Text) :
    backslashedLength q (c :: t) = (backslashedLength q t).map (· + 1) := by
  cases t <;> simp [backslashedLength, h, hback]

/-- A backslash in front of white space changes nothing. -/
theorem backslashedLength_back {q : Char} (hq : isBlank q = false) (hback : q ≠ '\\') {t : Text}
    (ht : BeginsBlank t) :
    backslashedLength q ('\\' :: t) = (backslashedLength q t).map (· + 1) := by
  cases t with
  | nil => simp [backslashedLength, hback.symm]
  | cons c t =>
    have hc := ht c rfl
    have hquote : c ≠ q := fun h => by simp [h, hq] at hc
    rw [backslashedLength_skip hquote (ne_of_isBlank hc _ (by simp))]
    simp [backslashedLength, Function.comp_def]

theorem backslashedLength_close {q : Char} (hback : q ≠ '\\') {t : Text} (h : t.head? ≠ some q) :
    backslashedLength q (q :: t) = some 1 := by
  cases t <;> simp_all [backslashedLength]

theorem backslashedLength_spans {q : Char} (hq : isBlank q = false) (hback : q ≠ '\\')
    (hg : ∀ c ∈ g, isBlank c) (hs : BeginsBlank s) (x : Text) :
    Spans x.length g.length s (backslashedLength q (x ++ (g ++ s)))
      (backslashedLength q (x ++ s)) := by
  have hgs := BeginsBlank.append hg hs
  have hnil : Spans 0 g.length s (backslashedLength q (g ++ s)) (backslashedLength q s) :=
    spans_gap rfl (fun c t hc => backslashedLength_skip (fun h => by simp [h, hq] at hc)
      (ne_of_isBlank hc _ (by simp)) t) hg
  fun_induction backslashedLength q x with
  | case1 => exact hnil
  | case2 =>
    rw [List.singleton_append, List.singleton_append,
      backslashedLength_close hback (hgs.head?_ne hq),
      backslashedLength_close hback (hs.head?_ne hq)]
    exact .within (Nat.le_refl 1)
  | case3 c hc =>
    rw [List.singleton_append, List.singleton_append]
    by_cases hb : c = '\\'
    · subst hb
      rw [backslashedLength_back hq hback hgs, backslashedLength_back hq hback hs]
      exact hnil.map 1
    · rw [backslashedLength_skip hc hb, backslashedLength_skip hc hb]
      exact hnil.map 1
  | case4 d y ih =>
    simp only [List.cons_append, backslashedLength, ↓reduceIte]
    exact ih.map 2
  | case5 y hb ih =>
    simp only [List.cons_append, backslashedLength, if_neg hb, ↓reduceIte]
    exact ih.map 2
  | case6 d y hd hb =>
    have hclose (t : Text) : backslashedLength q (q :: d :: y ++ t) = some 1 :=
      backslashedLength_close hback (by simpa using hd)
    rw [hclose, hclose]
    exact .within (Nat.le_add_left 1 _)
  | case7 c d y hb hc ih =>
    rw [List.cons_append (a := c), List.cons_append (a := c), backslashedLength_skip hc hb,
      backslashedLength_skip hc hb]
    exact ih.map 1

/-! ## Escape strings -/

theorem escapeStringLength_skip {c : Char} (h : c ≠ '\'') (hback : c ≠ '\\') (t : Text) :
    escapeStringLength (c :: t) = (escapeStringLength t).map (· + 1) := by
  cases t <;> simp [escapeStringLength, h, hback]

theorem escapeStringLength_back {t : Text} (ht : BeginsBlank t) :
    escapeStringLength ('\\' :: t) = (escapeStringLength t).map (· + 1) := by
  cases t with
  | nil => simp [escapeStringLength]
  | cons c t =>
    have hc := ht c rfl
    rw [escapeStringLength_skip (ne_of_isBlank hc _ (by simp)) (ne_of_isBlank hc _ (by simp))]
    simp [escapeStringLength, escapeLength?_of_isBlank hc, Function.comp_def]

theorem escapeStringLength_close {t : Text} (h : t.head? ≠ some '\'') :
    escapeStringLength ('\'' :: t) = some 1 := by
  cases t <;> simp_all [escapeStringLength]

/-- The escape behind a backslash takes nothing of white space. -/
theorem escapeLength?_append_blank {s : Text} (hs : BeginsBlank s) (e : Char) (x : Text) :
    escapeLength? e (x ++ s) = escapeLength? e x := by
  cases s with
  | nil => rw [List.append_nil]
  | cons d s =>
    have hd := hs d rfl
    have hoctal : ∀ c ∈ blanks, isOctalDigit c = false := by decide
    exact escapeLength?_append (not_isHexDigit_of_isBlank hd) (ne_of_isBlank hd _ (by simp))
      (hoctal d (mem_blanks hd)) e x s

theorem escapeStringLength_spans (hg : ∀ c ∈ g, isBlank c) (hs : BeginsBlank s) (x : Text) :
    Spans x.length g.length s (escapeStringLength (x ++ (g ++ s)))
      (escapeStringLength (x ++ s)) := by
  have hgs := BeginsBlank.append hg hs
  have hnil : Spans 0 g.length s (escapeStringLength (g ++ s)) (escapeStringLength s) :=
    spans_gap (by simp [escapeStringLength]) (fun c t hc => escapeStringLength_skip
      (ne_of_isBlank hc _ (by simp)) (ne_of_isBlank hc _ (by simp)) t) hg
  fun_induction escapeStringLength x with
  | case1 => exact hnil
  | case2 =>
    rw [List.singleton_append, List.singleton_append,
      escapeStringLength_close (hgs.head?_ne (by decide)),
      escapeStringLength_close (hs.head?_ne (by decide))]
    exact .within (Nat.le_refl 1)
  | case3 c hc =>
    rw [List.singleton_append, List.singleton_append]
    by_cases hb : c = '\\'
    · subst hb
      rw [escapeStringLength_back hgs, escapeStringLength_back hs]
      exact hnil.map 1
    · rw [escapeStringLength_skip hc hb, escapeStringLength_skip hc hb]
      exact hnil.map 1
  | case4 y ih =>
    simp only [List.cons_append, escapeStringLength, ↓reduceIte]
    exact ih.map 2
  | case5 d y hd =>
    have hclose (t : Text) : escapeStringLength ('\'' :: d :: y ++ t) = some 1 :=
      escapeStringLength_close (by simpa using hd)
    rw [hclose, hclose]
    exact .within (Nat.le_add_left 1 _)
  | case6 d y k hk hb ih =>
    have hle : k ≤ y.length := escapeLength?_le hk
    have hsize : ('\\' :: d :: y).length = (y.drop k).length + (k + 2) := by
      simp only [List.length_cons, List.length_drop]
      omega
    simp only [List.cons_append, escapeStringLength, if_neg hb, ↓reduceIte,
      escapeLength?_append_blank hgs, escapeLength?_append_blank hs, hk,
      List.drop_append_of_le_length hle]
    rw [hsize]
    exact ih.map (k + 2)
  | case7 d y hnone hb =>
    simp only [List.cons_append, escapeStringLength, if_neg hb, ↓reduceIte,
      escapeLength?_append_blank hgs, escapeLength?_append_blank hs, hnone]
    exact .none
  | case8 c d y hc hb ih =>
    rw [List.cons_append (a := c), List.cons_append (a := c), escapeStringLength_skip hc hb,
      escapeStringLength_skip hc hb]
    exact ih.map 1

/-! ## Unicode strings -/

/-- The length of a Unicode string, if it is one. -/
def unicodeLength? (t : Text) : Option Nat := (unicodeStringLength t).toOption

theorem toOption_shiftCount (k : Nat) (x : Except (LexFault × Nat) Nat) :
    (shiftCount k x).toOption = x.toOption.map (· + k) := by
  cases x <;> rfl

theorem unicodeLength?_skip {c : Char} (h : c ≠ '\'') (hback : c ≠ '\\') (t : Text) :
    unicodeLength? (c :: t) = (unicodeLength? t).map (· + 1) := by
  rw [unicodeLength?, unicodeStringLength.eq_def]
  simp only [if_neg h, if_neg hback, toOption_shiftCount]
  rfl

theorem unicodeLength?_close {t : Text} (h : t.head? ≠ some '\'') :
    unicodeLength? ('\'' :: t) = some 1 := by
  rw [unicodeLength?, unicodeStringLength_quote]
  · rfl
  · rintro r rfl
    exact h rfl

/-- A code takes no white space. -/
theorem codePoint_append_blank (hs : BeginsBlank s) (width value : Nat) (x : Text) (n : Nat) :
    codePoint width value (x ++ s) = .ok n ↔ codePoint width value x = .ok n := by
  cases s with
  | nil => rw [List.append_nil]
  | cons d s => exact codePoint_append (not_isHexDigit_of_isBlank (hs d rfl)) width value x s n

theorem append_ne_cons_blank (hs : BeginsBlank s) {x : Text} {c : Char} (hc : isBlank c = false)
    (h : ∀ r, x ≠ c :: r) (r : Text) : x ++ s ≠ c :: r := by
  cases x with
  | nil =>
    intro heq
    exact hs.head?_ne hc (congrArg List.head? heq)
  | cons d x =>
    intro heq
    exact h x (by rw [(List.cons.inj heq).1])

/-- An escape of four digits with the rest of its string. -/
theorem unicodeLength?_code (hs : BeginsBlank s) {y : Text} (hback : ∀ r, y ≠ '\\' :: r)
    (hplus : ∀ r, y ≠ '+' :: r) {v : Nat} (hv : codePoint 4 0 y = .ok v) :
    unicodeLength? ('\\' :: y ++ s) = (unicodeLength? (y.drop 4 ++ s)).map (· + 5) := by
  have hle : 4 ≤ y.length := le_length_of_codePoint hv
  rw [unicodeLength?, List.cons_append, unicodeStringLength_code
    (append_ne_cons_blank hs (by decide) hback) (append_ne_cons_blank hs (by decide) hplus),
    (codePoint_append_blank hs 4 0 y v).mpr hv, List.drop_append_of_le_length hle]
  exact toOption_shiftCount 5 _

/-- An escape of six digits with the rest of its string. -/
theorem unicodeLength?_plus (hs : BeginsBlank s) {y : Text} {v : Nat}
    (hv : codePoint 6 0 y = .ok v) :
    unicodeLength? ('\\' :: '+' :: y ++ s) = (unicodeLength? (y.drop 6 ++ s)).map (· + 8) := by
  have hle : 6 ≤ y.length := le_length_of_codePoint hv
  rw [unicodeLength?, List.cons_append, List.cons_append, unicodeStringLength.eq_def]
  simp only [Char.reduceEq, ↓reduceIte, (codePoint_append_blank hs 6 0 y v).mpr hv,
    List.drop_append_of_le_length hle]
  exact toOption_shiftCount 8 _

/-- A code that is none is none in front of white space either. -/
theorem codePoint_append_blank_error (hs : BeginsBlank s) {width k : Nat} {y : Text}
    {fault : LexFault} (h : codePoint width 0 y = .error (fault, k)) :
    ∃ e, codePoint width 0 (y ++ s) = .error e := by
  cases hcode : codePoint width 0 (y ++ s) with
  | error e => exact ⟨e, rfl⟩
  | ok v =>
    rw [(codePoint_append_blank hs width 0 y v).mp hcode] at h
    contradiction

theorem unicodeLength?_pair (t : Text) :
    unicodeLength? ('\'' :: '\'' :: t) = (unicodeLength? t).map (· + 2) := by
  rw [unicodeLength?, unicodeStringLength.eq_def]
  exact toOption_shiftCount 2 _

theorem unicodeLength?_back (t : Text) :
    unicodeLength? ('\\' :: '\\' :: t) = (unicodeLength? t).map (· + 2) := by
  rw [unicodeLength?, unicodeStringLength.eq_def]
  exact toOption_shiftCount 2 _

theorem unicodeLength?_spans (hg : ∀ c ∈ g, isBlank c) (hs : BeginsBlank s) (x : Text) :
    Spans x.length g.length s (unicodeLength? (x ++ (g ++ s))) (unicodeLength? (x ++ s)) := by
  have hgs := BeginsBlank.append hg hs
  have hnil : Spans 0 g.length s (unicodeLength? (g ++ s)) (unicodeLength? s) :=
    spans_gap (by simp [unicodeLength?, unicodeStringLength, Except.toOption]) (fun c t hc =>
      unicodeLength?_skip (ne_of_isBlank hc _ (by simp)) (ne_of_isBlank hc _ (by simp)) t) hg
  fun_induction unicodeStringLength x with
  | case1 => exact hnil
  | case2 y ih =>
    simp only [List.cons_append, unicodeLength?_pair]
    exact ih.map 2
  | case3 y hy =>
    have hhead {t : Text} (ht : BeginsBlank t) : (y ++ t).head? ≠ some '\'' := by
      intro h
      obtain ⟨r, hr⟩ := List.head?_eq_some_iff.mp h
      exact append_ne_cons_blank ht (by decide) hy r hr
    rw [List.cons_append, List.cons_append, unicodeLength?_close (hhead hgs),
      unicodeLength?_close (hhead hs)]
    exact .within (Nat.le_add_left 1 _)
  | case4 y hback ih =>
    simp only [List.cons_append, unicodeLength?_back]
    exact ih.map 2
  | case5 y v hok hback ih =>
    have hle : 6 ≤ y.length := le_length_of_codePoint hok
    have hsize : ('\\' :: '+' :: y).length = (y.drop 6).length + 8 := by
      simp only [List.length_cons, List.length_drop]
      omega
    rw [unicodeLength?_plus hgs hok, unicodeLength?_plus hs hok, hsize]
    exact ih.map 8
  | case6 y fault k hcode hback =>
    have hnone {t : Text} (ht : BeginsBlank t) : unicodeLength? ('\\' :: '+' :: y ++ t) = none := by
      obtain ⟨e, he⟩ := codePoint_append_blank_error ht hcode
      rw [unicodeLength?, List.cons_append, List.cons_append, unicodeStringLength.eq_def]
      simp only [if_neg hback, ↓reduceIte, he]
      rfl
    rw [hnone hgs, hnone hs]
    exact .none
  | case7 y hback hplus v hok _ ih =>
    have hle : 4 ≤ y.length := le_length_of_codePoint hok
    have hsize : ('\\' :: y).length = (y.drop 4).length + 5 := by
      simp only [List.length_cons, List.length_drop]
      omega
    rw [unicodeLength?_code hgs hback hplus hok, unicodeLength?_code hs hback hplus hok, hsize]
    exact ih.map 5
  | case8 y hback hplus fault k hcode =>
    have hnone {t : Text} (ht : BeginsBlank t) : unicodeLength? ('\\' :: y ++ t) = none := by
      obtain ⟨e, he⟩ := codePoint_append_blank_error ht hcode
      rw [unicodeLength?, List.cons_append, unicodeStringLength_code
        (append_ne_cons_blank ht (by decide) hback) (append_ne_cons_blank ht (by decide) hplus), he]
      rfl
    rw [hnone hgs, hnone hs]
    exact .none
  | case9 c y hquote hback ih =>
    rw [List.cons_append (a := c), List.cons_append (a := c), unicodeLength?_skip hquote hback,
      unicodeLength?_skip hquote hback]
    exact ih.map 1

/-! ## Dollar quotes -/

theorem doubleDollarLength_blank {t : Text} (ht : BeginsBlank t) (dollar : Bool) :
    doubleDollarLength dollar t = doubleDollarLength false t := by
  cases t with
  | nil => rfl
  | cons c t =>
    have hc : c ≠ '$' := ne_of_isBlank (ht c rfl) _ (by simp)
    simp [doubleDollarLength, hc]

theorem doubleDollarLength_spans (hg : ∀ c ∈ g, isBlank c) (hs : BeginsBlank s) (dollar : Bool)
    (x : Text) :
    Spans x.length g.length s (doubleDollarLength dollar (x ++ (g ++ s)))
      (doubleDollarLength dollar (x ++ s)) := by
  fun_induction doubleDollarLength dollar x with
  | case1 dollar =>
    rw [List.nil_append, List.nil_append, doubleDollarLength_blank (BeginsBlank.append hg hs),
      doubleDollarLength_blank hs]
    refine spans_gap rfl (fun c t hc => ?_) hg
    have hdollar : c ≠ '$' := ne_of_isBlank hc _ (by simp)
    simp [doubleDollarLength, hdollar]
  | case2 dollar c y hc =>
    rw [List.cons_append, List.cons_append, doubleDollarLength, doubleDollarLength, if_pos hc,
      if_pos hc]
    exact .within (Nat.le_add_left 1 _)
  | case3 dollar c y hc ih =>
    rw [List.cons_append, List.cons_append, doubleDollarLength, doubleDollarLength, if_neg hc,
      if_neg hc]
    exact ih.map 1

theorem isPrefixOf_append_blank {p : Text} (hp : ∀ c ∈ p, isBlank c = false) (hs : BeginsBlank s)
    (x : Text) : p.isPrefixOf (x ++ s) = p.isPrefixOf x := by
  cases s with
  | nil => rw [List.append_nil]
  | cons d s =>
    refine isPrefixOf_append (fun hd => ?_) x s
    have := hs d rfl
    rw [hp d hd] at this
    contradiction

theorem throughDelimiter_spans {delimiter : Text} (hne : delimiter ≠ [])
    (hd : ∀ c ∈ delimiter, isBlank c = false) (hg : ∀ c ∈ g, isBlank c) (hs : BeginsBlank s)
    (x : Text) :
    Spans x.length g.length s (throughDelimiter delimiter (x ++ (g ++ s)))
      (throughDelimiter delimiter (x ++ s)) := by
  have hbegins {s : Text} (hs : BeginsBlank s) (x : Text) := isPrefixOf_append_blank hd hs x
  fun_induction throughDelimiter delimiter x with
  | case1 =>
    refine spans_gap rfl (fun c t hc => ?_) hg
    have hprefix : delimiter.isPrefixOf (c :: t) = false := by
      obtain ⟨e, p, rfl⟩ := List.exists_cons_of_ne_nil hne
      have he : e ≠ c := by
        rintro rfl
        simp [hd e List.mem_cons_self] at hc
      simp [List.isPrefixOf, he]
    rw [throughDelimiter, hprefix, if_neg Bool.false_ne_true]
  | case2 c y hfound =>
    have hlen := (List.isPrefixOf_iff_prefix.mp hfound).length_le
    rw [List.cons_append, List.cons_append, throughDelimiter, throughDelimiter,
      ← List.cons_append, ← List.cons_append, hbegins (BeginsBlank.append hg hs), hbegins hs,
      if_pos hfound, if_pos hfound]
    exact .within hlen
  | case3 c y hfound ih =>
    rw [List.cons_append, List.cons_append, throughDelimiter, throughDelimiter,
      ← List.cons_append, ← List.cons_append, hbegins (BeginsBlank.append hg hs), hbegins hs,
      if_neg hfound, if_neg hfound]
    exact ih.map 1

/-! ## Comments -/

/-- A character that opens and closes nothing with what follows is one more character of a
comment. -/
theorem blockCommentLength_skip {c : Char} {t : Text} (hopen : c = '/' → t.head? ≠ some '*')
    (hclose : c = '*' → t.head? ≠ some '/') (depth : Nat) :
    blockCommentLength depth (c :: t) = (blockCommentLength depth t).map (· + 1) := by
  cases t with
  | nil => rfl
  | cons d t =>
    rw [blockCommentLength.eq_def]
    simp only
    rw [if_neg (by simpa using hopen), if_neg (by simpa using hclose)]

theorem blockCommentLength_spans (hg : ∀ c ∈ g, isBlank c) (hs : BeginsBlank s) (depth : Nat)
    (x : Text) :
    Spans x.length g.length s (blockCommentLength depth (x ++ (g ++ s)))
      (blockCommentLength depth (x ++ s)) := by
  have hskip {t : Text} (ht : BeginsBlank t) (c : Char) (depth : Nat) :
      blockCommentLength depth (c :: t) = (blockCommentLength depth t).map (· + 1) :=
    blockCommentLength_skip (fun _ => ht.head?_ne (by decide)) (fun _ => ht.head?_ne (by decide)) _
  have hnil (depth : Nat) :
      Spans 0 g.length s (blockCommentLength depth (g ++ s)) (blockCommentLength depth s) :=
    spans_gap rfl (fun c t hc => blockCommentLength_skip
      (fun h => absurd h (ne_of_isBlank hc _ (by simp)))
      (fun h => absurd h (ne_of_isBlank hc _ (by simp))) depth) hg
  fun_induction blockCommentLength depth x with
  | case1 depth => exact hnil depth
  | case2 depth c =>
    rw [List.singleton_append, List.singleton_append, hskip (BeginsBlank.append hg hs), hskip hs]
    exact (hnil depth).map 1
  | case3 depth c d y hopen ih =>
    simp only [List.cons_append, blockCommentLength, if_pos hopen]
    exact ih.map 2
  | case4 c d y hopen hclose =>
    simp only [List.cons_append, blockCommentLength, if_neg hopen, if_pos hclose]
    exact .within (Nat.le_add_left 2 _)
  | case5 c d y hopen hclose depth ih =>
    simp only [List.cons_append, blockCommentLength, if_neg hopen, if_pos hclose]
    exact ih.map 2
  | case6 depth c d y hopen hclose ih =>
    rw [List.cons_append (a := c), List.cons_append (a := c),
      blockCommentLength_skip (by simpa using hopen) (by simpa using hclose),
      blockCommentLength_skip (by simpa using hopen) (by simpa using hclose)]
    exact ih.map 1

end TableScaffold.Sql
