import TableScaffold.Proofs.Sql.Gap

set_option autoImplicit false

/-!
# Tokens over a gap

A token in front of white space that begins with a line end stops before it, takes that
line end, or cannot be read without what is behind (`readToken_cut`).  In the last case it
spans the white space, whether that is there or not (`readToken_spans`): it is a token of
the same kind, and only what a quoted name stands for may differ.
-/

namespace TableScaffold.Sql

open Text (isBlank)

variable {d : Char} {g s x : Text} {afterWord : Bool}

/-- The characters that can end a line. -/
def lineEnds : List Char := ['\n', '\r']

theorem lineEnds_subset : lineEnds ⊆ delimiters := by decide

theorem isBlank_of_mem_lineEnds : ∀ d ∈ lineEnds, isBlank d := by decide

/-! ## Readings that span -/

/-- Tokens that are the same but for the name that stands between quotes. -/
inductive SameKind : Token → Token → Prop where
  | refl (t : Token) : SameKind t t
  | name (v v' : Text) : SameKind (.word v true) (.word v' true)

namespace SameKind

variable {t t' : Token}

theorem symm (h : SameKind t t') : SameKind t' t := by
  cases h with
  | refl => exact .refl t
  | name v v' => exact .name v' v

theorem isWord_eq (h : SameKind t t') : t'.isWord = t.isWord := by
  cases h with
  | refl => rfl
  | name => rfl

theorem eq_semicolon_iff (h : SameKind t t') : t = .semicolon ↔ t' = .semicolon := by
  cases h with
  | refl => exact Iff.rfl
  | name => exact iff_of_false nofun nofun

end SameKind

/-- The first reading is that of `size` characters, a gap and `s`, the second one that without
the gap: no token is read, or one that ends within the first characters, or else one that
spans the gap. -/
inductive TokenSpans (size gap : Nat) (s : Text) : Reading → Reading → Prop where
  | error (fault fault' : LexFault × Nat) : TokenSpans size gap s (.error fault) (.error fault')
  | within {t t' : Token} {n : Nat} (h : n ≤ size) :
    TokenSpans size gap s (.ok (t, n)) (.ok (t', n))
  | past {t t' : Token} {n n' : Nat} (k : Nat) (hs : s ≠ []) (hn : n = size + gap + k)
    (hn' : n' = size + k) (ht : SameKind t t') :
    TokenSpans size gap s (.ok (t, n)) (.ok (t', n'))

/-- A reading that takes as many characters as a stretch does, behind `before` more, and gives
a token of some kind. -/
inductive ReadsStretch (before : Nat) (kind : Token → Prop) : Option Nat → Reading → Prop where
  | none (fault : LexFault × Nat) : ReadsStretch before kind none (.error fault)
  | some {t : Token} (n : Nat) (ht : kind t) :
    ReadsStretch before kind (some n) (.ok (t, n + before))

theorem Spans.token {size gap before : Nat} {kind : Token → Prop} {o o' : Option Nat}
    {read read' : Reading} (hkind : ∀ t t', kind t → kind t' → SameKind t t')
    (h : Spans size gap s o o') (hread : ReadsStretch before kind o read)
    (hread' : ReadsStretch before kind o' read') :
    TokenSpans (size + before) gap s read read' := by
  cases h with
  | none =>
    cases hread
    cases hread'
    exact .error _ _
  | within h =>
    cases hread
    cases hread'
    exact .within (Nat.add_le_add_right h before)
  | past k hs hn hn' =>
    cases hread with
    | some _ ht =>
      cases hread' with
      | some _ ht' => exact .past k hs (by omega) (by omega) (hkind _ _ ht ht')

theorem readsStretch_literal (fault : LexFault) (place before : Nat) (o : Option Nat) :
    ReadsStretch before (· = .literal) o (literalOf fault place before o) := by
  cases o with
  | none => exact .none _
  | some n =>
    rw [literalOf, Nat.add_comm]
    exact .some n rfl

theorem Spans.literal {size gap : Nat} {o o' : Option Nat} (h : Spans size gap s o o')
    (fault : LexFault) (place place' before : Nat) :
    TokenSpans (size + before) gap s (literalOf fault place before o)
      (literalOf fault place' before o') := by
  refine h.token ?_ (readsStretch_literal fault place before o)
    (readsStretch_literal fault place' before o')
  rintro t t' rfl rfl
  exact .refl _

theorem readsStretch_unicode (y : Text) :
    ReadsStretch 2 (· = .literal) (unicodeLength? y) (readWord.readUnicodeString y) := by
  unfold unicodeLength? readWord.readUnicodeString
  cases unicodeStringLength y with
  | error fault => exact .none _
  | ok n => exact .some n rfl

theorem readsStretch_name (afterWord : Bool) (x : Text) :
    ReadsStretch 0 (∃ v, · = .word v true) (quotedLength '"' x) (readToken afterWord '"' x) := by
  rw [quotedLength, readToken]
  cases quotedValue '"' x with
  | none => exact .none _
  | some p => exact .some p.2 ⟨p.1, rfl⟩

theorem readsStretch_block (afterWord : Bool) (x : Text) :
    ReadsStretch 1 (· = .blank) (blockCommentLength 0 x) (readToken afterWord '/' ('*' :: x)) := by
  rw [readToken]
  cases blockCommentLength 0 x with
  | none => exact .none _
  | some n => exact .some n rfl

/-! ## Readers -/

theorem takeWhile_append_blank {p : Char → Bool} (hp : ∀ c, isBlank c → p c = false)
    (hs : BeginsBlank s) (x : Text) : (x ++ s).takeWhile p = x.takeWhile p := by
  cases s with
  | nil => rw [List.append_nil]
  | cons d s => exact takeWhile_append_stop (hp d (hs d rfl)) x s

/-- A string between dollars by its tag. -/
theorem readDollar_tagged {x body : Text} (h : ∀ y, x ≠ '$' :: y)
    (hbody : x.drop (x.takeWhile isTagChar).length = '$' :: body) (hs : BeginsBlank s) :
    readDollar (x ++ s) = literalOf .unclosedTaggedDollars ((x ++ s).length + 1)
      ((x.takeWhile isTagChar).length + 1)
      (throughDelimiter ('$' :: x.takeWhile isTagChar ++ ['$']) (body ++ s)) := by
  have hne : ∀ y, x ++ s ≠ '$' :: y := append_ne_cons_blank hs (by decide) h
  rw [readDollar_tag hne, takeWhile_append_blank (fun _ => not_isTagChar_of_isBlank) hs,
    List.drop_append_of_le_length (length_takeWhile_le _ _), hbody]
  rfl

section

variable (hg : ∀ c ∈ g, isBlank c) (hs : BeginsBlank s)
include hg hs

/-- What begins like a word and is no token of its own is an open string. -/
theorem readWord_spans {c : Char} {fault : LexFault × Nat} (hfault : readWord c x = .error fault) :
    TokenSpans x.length g.length s (readWord c (x ++ (g ++ s))) (readWord c (x ++ s)) := by
  have hquote : isBlank '\'' = false := by decide
  have hdouble : isBlank '"' = false := by decide
  have hunicode (y : Text) : TokenSpans (y.length + 2) g.length s
      (readWord.readUnicodeString (y ++ (g ++ s))) (readWord.readUnicodeString (y ++ s)) := by
    refine (unicodeLength?_spans hg hs y).token ?_ (readsStretch_unicode _) (readsStretch_unicode _)
    rintro t t' rfl rfl
    exact .refl _
  fun_cases readWord c x
  case case1 y | case2 y | case5 y | case6 y =>
    exact (quotedLength_spans hquote hg hs y).literal .unterminatedString 1 1 1
  case case3 y | case4 y =>
    exact (quotedLength_spans hdouble hg hs y).literal .unterminatedString 1 1 1
  case case7 y | case8 y =>
    exact (backslashedLength_spans hquote (by decide) hg hs y).literal .unterminatedString 1 1 1
  case case9 y | case10 y =>
    exact (escapeStringLength_spans hg hs y).literal .unterminatedEscapeString 0 0 1
  case case11 y | case12 y => exact hunicode y
  case case13 =>
    unfold readWord at hfault
    split at hfault <;> simp_all [readName]

theorem readDollar_spans {fault : LexFault × Nat} (hfault : readDollar x = .error fault) :
    TokenSpans x.length g.length s (readDollar (x ++ (g ++ s))) (readDollar (x ++ s)) := by
  by_cases hx : ∃ y, x = '$' :: y
  · obtain ⟨y, rfl⟩ := hx
    exact (doubleDollarLength_spans hg hs false y).literal .unclosedDollars _ _ 1
  · have hne : ∀ y, x ≠ '$' :: y := fun y hy => hx ⟨y, hy⟩
    rw [readDollar_tag hne] at hfault
    split at hfault
    · next body hbody =>
      have hdelimiter : ∀ c ∈ '$' :: x.takeWhile isTagChar ++ ['$'], isBlank c = false := by
        intro c hc
        by_contra hblank
        have hblank := Bool.of_not_eq_false hblank
        have hdollar : c ≠ '$' := ne_of_isBlank hblank _ (by simp)
        have hmem : c ∈ x.takeWhile isTagChar := by simpa [hdollar] using hc
        have htag := List.all_eq_true.mp List.all_takeWhile c hmem
        rw [not_isTagChar_of_isBlank hblank] at htag
        contradiction
      have hsize : x.length = body.length + ((x.takeWhile isTagChar).length + 1) := by
        have := congrArg List.length hbody
        have := length_takeWhile_le isTagChar x
        rw [List.length_drop, List.length_cons] at *
        omega
      rw [readDollar_tagged hne hbody (BeginsBlank.append hg hs), readDollar_tagged hne hbody hs,
        hsize]
      exact (throughDelimiter_spans (by simp) hdelimiter hg hs body).literal _ _ _ _
    · contradiction

theorem readToken_name_spans (afterWord : Bool) (x : Text) :
    TokenSpans x.length g.length s (readToken afterWord '"' (x ++ (g ++ s)))
      (readToken afterWord '"' (x ++ s)) := by
  have hdouble : isBlank '"' = false := by decide
  refine (quotedLength_spans hdouble hg hs x).token ?_ (readsStretch_name afterWord _)
    (readsStretch_name afterWord _)
  rintro t t' ⟨v, rfl⟩ ⟨v', rfl⟩
  exact .name v v'

theorem readToken_block_spans (afterWord : Bool) (x : Text) :
    TokenSpans (x.length + 1) g.length s (readToken afterWord '/' ('*' :: x ++ (g ++ s)))
      (readToken afterWord '/' ('*' :: x ++ s)) := by
  refine (blockCommentLength_spans hg hs 0 x).token ?_ (readsStretch_block afterWord _)
    (readsStretch_block afterWord _)
  rintro t t' rfl rfl
  exact .refl _

end

/-! ## Tokens -/

/-- A text that is empty or begins with a line feed. -/
def BeginsFeed (t : Text) : Prop := ∀ c ∈ t.head?, c = '\n'

theorem beginsFeed_nil : BeginsFeed [] := nofun

theorem beginsFeed_cons (r : Text) : BeginsFeed ('\n' :: r) := by
  intro c hc
  exact (Option.some.inj hc).symm

theorem BeginsFeed.beginsBlank (h : BeginsFeed s) : BeginsBlank s := by
  intro c hc
  rw [h c hc]
  decide

/-- Where no operator begins, none begins in front of a delimiter. -/
theorem readOperator_error (hd : d ∈ delimiters) {c : Char} {fault : LexFault × Nat}
    (h : readOperator c x = .error fault) (r : Text) :
    ∃ fault', readOperator c (x ++ d :: r) = .error fault' := by
  have hfind : operatorAt? (c :: (x ++ d :: r)) = operatorAt? (c :: x) :=
    operatorAt?_append hd (c :: x) r
  rw [readOperator] at h ⊢
  rw [hfind]
  cases hat : operatorAt? (c :: x) with
  | none =>
    rw [hat] at h
    contradiction
  | some found =>
    obtain ⟨op, kind⟩ := found
    have hlen := length_le_of_operatorAt? hat
    rw [hat] at h
    cases kind with
    | unfinished =>
      simp only [List.drop_append_of_le_length (show op.length - 1 ≤ x.length by omega),
        operatorTail_append hd]
      by_cases htail : operatorTail (x.drop (op.length - 1)) = 0
      · exact ⟨_, if_pos htail⟩
      · simp [htail] at h
    | fixed => contradiction
    | greedy => contradiction
    | swallowing => contradiction

theorem readOperator_error_feed {c : Char} {fault : LexFault × Nat}
    (h : readOperator c x = .error fault) (hs : BeginsFeed s) :
    ∃ fault', readOperator c (x ++ s) = .error fault' := by
  cases s with
  | nil => exact ⟨fault, by rw [List.append_nil, h]⟩
  | cons e s =>
    obtain rfl := hs e rfl
    exact readOperator_error (by decide) h s

theorem readNumber_append_feed (hs : BeginsFeed s) (c : Char) :
    readNumber afterWord (c :: x ++ s) = readNumber afterWord (c :: x) := by
  cases s with
  | nil => rw [List.append_nil]
  | cons e s =>
    obtain rfl := hs e rfl
    exact readNumber_append (by decide) afterWord c x s

/-- A token that cannot be read up to the end of its text spans the gap behind it or cannot
be read either. -/
theorem readToken_spans (hd : d ∈ delimiters) (hg : ∀ c ∈ d :: g, isBlank c) (hs : BeginsFeed s)
    {c : Char} {fault : LexFault × Nat} (hfault : readToken afterWord c x = .error fault) :
    TokenSpans x.length (d :: g).length s (readToken afterWord c (x ++ (d :: g ++ s)))
      (readToken afterWord c (x ++ s)) := by
  have hsingle : isBlank '\'' = false := by decide
  have hblanks := hs.beginsBlank
  by_cases hc : c ∈ marks
  · simp only [marks, List.mem_cons, List.not_mem_nil, or_false] at hc
    rcases hc with rfl | rfl | rfl | rfl | rfl | rfl | rfl | rfl | rfl | rfl | rfl | rfl | rfl
    · contradiction
    · contradiction
    · contradiction
    · unfold readToken at hfault
      split at hfault <;> simp_all
    · contradiction
    · contradiction
    · contradiction
    · contradiction
    · contradiction
    · contradiction
    · exact (quotedLength_spans hsingle hg hblanks x).literal .unterminatedString 0 0 0
    · exact readToken_name_spans hg hblanks afterWord x
    · exact readDollar_spans hg hblanks hfault
  by_cases hline : ∃ y, c = '-' ∧ x = '-' :: y
  · obtain ⟨y, rfl, rfl⟩ := hline
    contradiction
  by_cases hblock : ∃ y, c = '/' ∧ x = '*' :: y
  · obtain ⟨y, rfl, rfl⟩ := hblock
    exact readToken_block_spans hg hblanks afterWord y
  have hline' : c = '-' → ∀ y, x ≠ '-' :: y := fun h y hx => hline ⟨y, h, hx⟩
  have hblock' : c = '/' → ∀ y, x ≠ '*' :: y := fun h y hx => hblock ⟨y, h, hx⟩
  have hother {t : Text} (ht : BeginsBlank t) : readToken afterWord c (x ++ t) = _ :=
    readToken_other hc (fun h => append_ne_cons_blank ht (by decide) (hline' h))
    (fun h => append_ne_cons_blank ht (by decide) (hblock' h))
  rw [readToken_other hc hline' hblock'] at hfault
  rw [hother (BeginsBlank.append hg hblanks), hother hblanks]
  split at hfault
  · next hdigit =>
    rw [if_pos hdigit, if_pos hdigit, List.cons_append, ← List.cons_append, readNumber_append hd,
      ← List.cons_append, readNumber_append_feed hs, hfault]
    exact .error _ _
  next hdigit =>
  rw [if_neg hdigit, if_neg hdigit]
  split at hfault
  · next hname =>
    rw [if_pos hname, if_pos hname]
    exact readWord_spans hg hblanks hfault
  next hname =>
  rw [if_neg hname, if_neg hname]
  split at hfault
  · contradiction
  · next hblank =>
    rw [if_neg hblank, if_neg hblank]
    obtain ⟨long, hlong⟩ := readOperator_error hd hfault (g ++ s)
    obtain ⟨short, hshort⟩ := readOperator_error_feed hfault hs
    rw [List.cons_append, hlong, hshort]
    exact .error long short

/-! ## Tokens that wait for the line end -/

/-- A line comment takes the line end behind it. -/
theorem lineCommentLength_append_end (hx : ∀ c ∈ x, c ≠ '\n' ∧ c ≠ '\r')
    (hd : d = '\n' ∨ d = '\r') (r : Text) :
    lineCommentLength (x ++ d :: r) = x.length + 1 := by
  induction x with
  | nil => simp [lineCommentLength, hd]
  | cons c x ih =>
    rw [List.forall_mem_cons] at hx
    rw [List.cons_append, lineCommentLength, if_neg (by simp [hx.1]), ih hx.2, List.length_cons]

/-- A token that waits for a line end takes it, and is complete at the end of the text. -/
theorem readToken_of_waits (afterWord : Bool) (hd : d ∈ lineEnds) {c : Char}
    (h : Waits d (c :: x)) :
    ∃ t, t.isWord = false ∧ t ≠ .semicolon ∧ readToken afterWord c x = .ok (t, x.length)
      ∧ ∀ r, readToken afterWord c (x ++ d :: r) = .ok (t, x.length + 1) := by
  have hend : d = '\n' ∨ d = '\r' := by simpa [lineEnds] using hd
  rcases h with ⟨⟨y, hy⟩, hopen⟩ | (hoperator | hoperator) | ⟨hreturn, rfl⟩
  · obtain ⟨rfl, rfl⟩ := List.cons.inj hy
    have hclosed : ∀ c ∈ y, c ≠ '\n' ∧ c ≠ '\r' := fun c hc => hopen c (by simp [hc])
    refine ⟨.blank, rfl, by simp, ?_, fun r => ?_⟩
    · simp [readToken, lineCommentLength_eq_length hclosed]
    · simp [readToken, lineCommentLength_append_end hclosed hend]
  · obtain ⟨rfl, rfl⟩ := List.cons.inj hoperator
    refine ⟨.symbol, rfl, by simp, rfl, fun r => ?_⟩
    rcases hend with rfl | rfl <;> rfl
  · obtain ⟨rfl, rfl⟩ := List.cons.inj hoperator
    refine ⟨.symbol, rfl, by simp, rfl, fun r => ?_⟩
    rcases hend with rfl | rfl <;> rfl
  · obtain ⟨rfl, rfl⟩ := List.cons.inj hreturn
    exact ⟨.blank, rfl, by simp, rfl, fun r => rfl⟩

/-- How a token is read in front of a line end: it ends before it, or takes it and nothing
more, or else it cannot be read up to there. -/
theorem readToken_cut (hd : d ∈ lineEnds) {c : Char} {r : Text} {t : Token} {n : Nat}
    (h : readToken afterWord c (x ++ d :: r) = .ok (t, n)) :
    (n ≤ x.length ∧ readToken afterWord c x = .ok (t, n) ∧ (n = x.length → ¬ Waits d (c :: x)))
      ∨ (Waits d (c :: x) ∧ n = x.length + 1 ∧ readToken afterWord c x = .ok (t, x.length))
      ∨ x.length < n ∧ ∃ fault, readToken afterWord c x = .error fault := by
  have hmem : d ∈ delimiters := lineEnds_subset hd
  rcases Nat.lt_or_ge x.length n with hlt | hle
  · right
    cases hread : readToken afterWord c x with
    | error fault => exact .inr ⟨hlt, fault, rfl⟩
    | ok found =>
      obtain ⟨t', n'⟩ := found
      left
      by_cases hwaits : Waits d (c :: x)
      · obtain ⟨t₀, -, -, hclosed, hover⟩ := readToken_of_waits afterWord hd hwaits
        rw [hover] at h
        obtain ⟨rfl, rfl⟩ := Prod.mk.inj (Except.ok.inj h)
        exact ⟨hwaits, rfl, by rw [← hread, hclosed]⟩
      · -- the token would have ended at the end of its text
        obtain ⟨hread', hle⟩ := (readToken_append hmem afterWord c x r t' n').mpr
          ⟨hread, fun _ => hwaits⟩
        rw [h] at hread'
        obtain ⟨-, rfl⟩ := Prod.mk.inj (Except.ok.inj hread')
        omega
  · exact .inl ⟨hle, (readToken_append hmem afterWord c x r t n).mp ⟨h, hle⟩⟩

end TableScaffold.Sql
