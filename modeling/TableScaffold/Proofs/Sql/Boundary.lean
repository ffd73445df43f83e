import TableScaffold.Sql.Lexer
import TableScaffold.Proofs.Sql.Stretch

set_option autoImplicit false

/-!
# Where a token ends

`readToken_append` is the law that lets a text be read in parts: in front of a
delimiter a token is read as it is read at the end of the text, unless it waits
for the character that would follow.  Line comments without a line end wait, the
two operators that take any character wait, and a carriage return waits for a
line feed.
-/

namespace TableScaffold.Sql

open Text (isHexDigit isOctalDigit)

variable {d : Char}

/-! ## Delimiters -/

/-- Characters that begin a token and that no token in front of them goes on
with. -/
def delimiters : List Char := [' ', '\t', '\n', '\r', '(', ')', ',', ';', '[', ']']

theorem not_isNamePart_of_mem : ∀ d ∈ delimiters, isNamePart d = false := by decide

theorem not_isTagChar_of_mem : ∀ d ∈ delimiters, isTagChar d = false := by decide

theorem not_isOperatorChar_of_mem : ∀ d ∈ delimiters, isOperatorChar d = false := by decide

theorem escapeEnd_of_mem (hd : d ∈ delimiters) : EscapeEnd d where
  not_hex := (by decide : ∀ d ∈ delimiters, isHexDigit d = false) d hd
  not_octal := (by decide : ∀ d ∈ delimiters, isOctalDigit d = false) d hd
  not_plus := (by decide : ∀ d ∈ delimiters, d ≠ '+') d hd
  not_quote := (by decide : ∀ d ∈ delimiters, d ≠ '\'') d hd
  not_backslash := (by decide : ∀ d ∈ delimiters, d ≠ '\\') d hd

theorem not_isDigit_of_mem : ∀ d ∈ delimiters, d.isDigit = false := by decide

/-- Marks that tokens are made of, none of which is a delimiter. -/
theorem ne_of_mem : ∀ d ∈ delimiters,
    ∀ c ∈ ['"', '\'', '&', '$', '*', '/', '-', '.', '_', '>', 'x', 'L', 'e', 'E', '+'], d ≠ c := by
  decide

/-! ## Tokens that wait -/

/-- A line comment without a line end. -/
def IsOpenComment (t : Text) : Prop := ['-', '-'] <+: t ∧ ∀ c ∈ t, c ≠ '\n' ∧ c ≠ '\r'

/-- An operator that takes the next character, whatever it is, and has none to
take. -/
def IsOpenOperator (t : Text) : Prop := t = ['?'] ∨ t = ['&', '>']

instance (t : Text) : Decidable (IsOpenComment t) :=
  inferInstanceAs (Decidable (_ ∧ ∀ c ∈ t, _))

instance (t : Text) : Decidable (IsOpenOperator t) := inferInstanceAs (Decidable (_ ∨ _))

/-- Whether the token that a text is would take a delimiter behind it. -/
def Waits (d : Char) (t : Text) : Prop :=
  IsOpenComment t ∨ IsOpenOperator t ∨ t = ['\r'] ∧ d = '\n'

theorem mem_of_waits {c : Char} {t : Text} (h : Waits d (c :: t)) : c ∈ ['-', '?', '&', '\r'] := by
  rcases h with ⟨hp, -⟩ | (h | h) | ⟨h, -⟩
  · obtain ⟨s, hs⟩ := hp
    simp only [List.cons_append, List.cons.injEq] at hs
    simp [← hs.1]
  all_goals simp_all

/-! ## Words -/

theorem takeWhile_append_stop {p : Char → Bool} (hp : p d = false) (x r : Text) :
    (x ++ d :: r).takeWhile p = x.takeWhile p := by
  rw [List.takeWhile_append, List.takeWhile_cons_of_neg (Bool.not_eq_true _ ▸ hp), List.append_nil]
  split
  · next hlen => exact ((List.takeWhile_prefix p).eq_of_length hlen).symm
  · rfl

theorem length_takeWhile_le (p : Char → Bool) (x : Text) : (x.takeWhile p).length ≤ x.length :=
  (List.takeWhile_prefix p).length_le

theorem literalOf_eq_ok {fault : LexFault} {place before n : Nat} {o : Option Nat} {t : Token} :
    literalOf fault place before o = .ok (t, n) ↔ t = .literal ∧ ∃ m, o = some m ∧ before + m = n := by
  cases o <;> grind [literalOf]

/-- A literal that is read alike, read behind `before` more characters. -/
theorem literalOf_within {fault : LexFault} {place place' size : Nat} {o o' : Option Nat}
    (before : Nat) (h : ∀ n, o = some n ∧ n ≤ size ↔ o' = some n) (t : Token) (n : Nat) :
    literalOf fault place before o = .ok (t, n) ∧ n ≤ size + before
      ↔ literalOf fault place' before o' = .ok (t, n) := by
  simp only [literalOf_eq_ok]
  constructor
  · rintro ⟨⟨ht, m, hm, rfl⟩, hle⟩
    exact ⟨ht, m, (h m).mp ⟨hm, by omega⟩, rfl⟩
  · rintro ⟨ht, m, hm, rfl⟩
    obtain ⟨hm, hle⟩ := (h m).mpr hm
    exact ⟨⟨ht, m, hm, rfl⟩, by omega⟩

theorem readName_append (hd : d ∈ delimiters) (c : Char) (x r : Text) :
    readName c (x ++ d :: r) = readName c x := by
  simp only [readName, takeWhile_append_stop (not_isNamePart_of_mem d hd)]

theorem readName_le {c : Char} {x : Text} {t : Token} {n : Nat} (h : readName c x = .ok (t, n)) :
    n ≤ x.length := by
  simp only [readName, Except.ok.injEq, Prod.mk.injEq] at h
  have := length_takeWhile_le isNamePart x
  omega

theorem readUnicodeString_eq_ok {x : Text} {t : Token} {n : Nat} :
    readWord.readUnicodeString x = .ok (t, n)
      ↔ t = .literal ∧ shiftCount 2 (unicodeStringLength x) = .ok n := by
  unfold readWord.readUnicodeString
  cases unicodeStringLength x <;> simp [shiftCount, eq_comm]

theorem readUnicodeString_append (hd : d ∈ delimiters) (x r : Text) (t : Token) (n : Nat) :
    readWord.readUnicodeString (x ++ d :: r) = .ok (t, n) ∧ n ≤ x.length + 2
      ↔ readWord.readUnicodeString x = .ok (t, n) := by
  have hlength := unicodeStringLength_append (escapeEnd_of_mem hd) x r
  rw [readUnicodeString_eq_ok, readUnicodeString_eq_ok, and_assoc, shiftCount_within 2 hlength]

theorem readWord_append (hd : d ∈ delimiters) (c : Char) (x r : Text) (t : Token) (n : Nat) :
    readWord c (x ++ d :: r) = .ok (t, n) ∧ n ≤ x.length ↔ readWord c x = .ok (t, n) := by
  have hsingle : d ≠ '\'' := ne_of_mem d hd _ (by simp)
  have hdouble : d ≠ '"' := ne_of_mem d hd _ (by simp)
  have hamp : d ≠ '&' := ne_of_mem d hd _ (by simp)
  fun_cases readWord c x
  case case1 y | case2 y | case5 y | case6 y =>
    exact literalOf_within 1 (quotedLength_append hsingle y r) t n
  case case3 y | case4 y =>
    exact literalOf_within 1 (quotedLength_append hdouble y r) t n
  case case7 y | case8 y =>
    exact literalOf_within 1 (backslashedLength_append (by decide) hsingle y r) t n
  case case9 y | case10 y =>
    exact literalOf_within 1 (escapeStringLength_append (escapeEnd_of_mem hd) y r) t n
  case case11 y | case12 y =>
    exact readUnicodeString_append hd y r t n
  case case13 =>
    -- a delimiter is neither a quote nor an ampersand, so no string begins here
    have hword : readWord c (x ++ d :: r) = readName c (x ++ d :: r) := by
      rcases x with _ | ⟨y, _ | ⟨z, x⟩⟩
      all_goals
        unfold readWord
        split <;> simp_all
    rw [hword, readName_append hd]
    exact and_iff_left_of_imp readName_le

/-! ## Dollars -/

/-- What a dollar begins that no second dollar follows: a tagged string if the
tag ends with a dollar, else a placeholder. -/
theorem readDollar_tag {x : Text} (h : ∀ s, x ≠ '$' :: s) :
    readDollar x = match x.drop (x.takeWhile isTagChar).length with
      | '$' :: body =>
        literalOf .unclosedTaggedDollars (x.length + 1) ((x.takeWhile isTagChar).length + 1)
          (throughDelimiter ('$' :: x.takeWhile isTagChar ++ ['$']) body)
      | _ => .ok (.literal, (x.takeWhile isTagChar).length) := by
  unfold readDollar
  split
  · next body => exact absurd rfl (h body)
  · rfl

theorem readDollar_append (hd : d ∈ delimiters) (x r : Text) (t : Token) (n : Nat) :
    readDollar (x ++ d :: r) = .ok (t, n) ∧ n ≤ x.length ↔ readDollar x = .ok (t, n) := by
  have hdollar : d ≠ '$' := ne_of_mem d hd _ (by simp)
  have hstop : isTagChar d = false := not_isTagChar_of_mem d hd
  by_cases hx : ∃ y, x = '$' :: y
  · obtain ⟨y, rfl⟩ := hx
    exact literalOf_within 1 (doubleDollarLength_append false y r) t n
  · have hne : ∀ y, x ≠ '$' :: y := fun y hy => hx ⟨y, hy⟩
    have hlen := length_takeWhile_le isTagChar x
    rw [readDollar_tag hne, readDollar_tag (append_ne_cons hne hdollar),
      takeWhile_append_stop hstop, List.drop_append_of_le_length hlen]
    have hplaceholder : (Except.ok (.literal, (x.takeWhile isTagChar).length) : Reading)
        = .ok (t, n) → n ≤ x.length := by
      intro h
      obtain ⟨-, rfl⟩ := Prod.mk.inj (Except.ok.inj h)
      exact hlen
    cases hy : x.drop (x.takeWhile isTagChar).length with
    | nil =>
      rw [List.nil_append]
      split
      · next body hbody => exact absurd (List.cons.inj hbody).1 hdollar
      · exact and_iff_left_of_imp hplaceholder
    | cons e y =>
      by_cases he : e = '$'
      · subst he
        have hsize : x.length = y.length + ((x.takeWhile isTagChar).length + 1) := by
          have := congrArg List.length hy
          rw [List.length_drop, List.length_cons] at this
          omega
        have hdelimiter : d ∉ '$' :: x.takeWhile isTagChar ++ ['$'] := by
          intro h
          have hmem : d ∈ x.takeWhile isTagChar := by simpa [hdollar] using h
          have htag := List.all_eq_true.mp List.all_takeWhile d hmem
          rw [hstop] at htag
          contradiction
        have hquote := throughDelimiter_append (by simp) hdelimiter y r
        have hbound : n ≤ x.length ↔ n ≤ y.length + ((x.takeWhile isTagChar).length + 1) := by
          rw [hsize]
        rw [hbound]
        exact literalOf_within _ hquote t n
      · simp only [List.cons_append]
        split
        · next body hbody => exact absurd (List.cons.inj hbody).1 he
        · split
          · next body hbody => exact absurd (List.cons.inj hbody).1 he
          · exact and_iff_left_of_imp hplaceholder

/-! ## Numbers -/

theorem head?_append_iff {e : Char} (hne : d ≠ e) (x r : Text) :
    (x ++ d :: r).head? = some e ↔ x.head? = some e := by
  cases x <;> simp [hne]

theorem digitRun_append {isDigit : Char → Bool} (hdigit : isDigit d = false)
    (hhex : isHexDigit d = false) (hscore : d ≠ '_') (x r : Text) :
    digitRun isDigit (x ++ d :: r) = digitRun isDigit x := by
  induction x with
  | nil => simp [digitRun, hdigit, hscore]
  | cons c x ih =>
    have hhead : ((x ++ d :: r).head?.map isHexDigit).getD false
        = (x.head?.map isHexDigit).getD false := by
      cases x <;> simp [hhex]
    rw [List.cons_append, digitRun, digitRun, hhead, ih]

theorem digitRun_le (isDigit : Char → Bool) (t : Text) : digitRun isDigit t ≤ t.length := by
  fun_induction digitRun isDigit t <;> simp_all

theorem wholeLength_append (hd : d ∈ delimiters) (x r : Text) :
    digitRun Char.isDigit (x ++ d :: r) = digitRun Char.isDigit x :=
  digitRun_append (not_isDigit_of_mem d hd) (escapeEnd_of_mem hd).not_hex
    (ne_of_mem d hd '_' (by simp)) x r

theorem exponentLength_append (hd : d ∈ delimiters) (x r : Text) :
    exponentLength (x ++ d :: r) = exponentLength x := by
  have hdigit : d.isDigit = false := not_isDigit_of_mem d hd
  have hplus : d ≠ '+' := ne_of_mem d hd _ (by simp)
  have hminus : d ≠ '-' := ne_of_mem d hd _ (by simp)
  have he : d ≠ 'e' := ne_of_mem d hd _ (by simp)
  have hE : d ≠ 'E' := ne_of_mem d hd _ (by simp)
  cases x with
  | nil => simp [exponentLength, he, hE]
  | cons c x =>
    have htake (s : Nat) (hs : s ≤ x.length) :
        ((x ++ d :: r).drop s).takeWhile Char.isDigit = (x.drop s).takeWhile Char.isDigit := by
      rw [List.drop_append_of_le_length hs, takeWhile_append_stop hdigit]
    rw [List.cons_append, exponentLength, exponentLength]
    simp only [head?_append_iff hplus, head?_append_iff hminus]
    rw [htake]
    split
    · cases x <;> simp_all
    · omega

theorem exponentLength_le (t : Text) : exponentLength t ≤ t.length := by
  cases t with
  | nil => simp [exponentLength]
  | cons c x =>
    have := length_takeWhile_le Char.isDigit
      (x.drop (if x.head? = some '+' ∨ x.head? = some '-' then 1 else 0))
    grind [exponentLength]

/-- A decimal point, if the text begins with one. -/
def pointLength (t : Text) : Nat := if t.head? = some '.' then 1 else 0

/-- The digits behind a decimal point, or behind none. -/
def fractionLength (t : Text) : Nat := digitRun Char.isDigit (t.drop (pointLength t))

/-- What stands before the exponent of a number. -/
def mantissaLength (t : Text) : Nat :=
  digitRun Char.isDigit t + pointLength (t.drop (digitRun Char.isDigit t))
    + fractionLength (t.drop (digitRun Char.isDigit t))

theorem pointLength_le (t : Text) : pointLength t ≤ t.length := by
  cases t with
  | nil => exact Nat.le_refl 0
  | cons c t =>
    rw [pointLength, List.length_cons]
    split <;> omega

theorem pointLength_append (hd : d ∈ delimiters) (x r : Text) :
    pointLength (x ++ d :: r) = pointLength x := by
  simp only [pointLength, head?_append_iff (ne_of_mem d hd '.' (by simp))]

theorem fractionLength_append (hd : d ∈ delimiters) (x r : Text) :
    fractionLength (x ++ d :: r) = fractionLength x := by
  rw [fractionLength, fractionLength, pointLength_append hd,
    List.drop_append_of_le_length (pointLength_le x), wholeLength_append hd]

theorem mantissaLength_append (hd : d ∈ delimiters) (x r : Text) :
    mantissaLength (x ++ d :: r) = mantissaLength x := by
  rw [mantissaLength, mantissaLength, wholeLength_append hd,
    List.drop_append_of_le_length (digitRun_le _ x), pointLength_append hd,
    fractionLength_append hd]

theorem mantissaLength_le (t : Text) : mantissaLength t ≤ t.length := by
  have hwhole := digitRun_le Char.isDigit t
  have hpoint := pointLength_le (t.drop (digitRun Char.isDigit t))
  have hfraction := digitRun_le Char.isDigit ((t.drop (digitRun Char.isDigit t)).drop
    (pointLength (t.drop (digitRun Char.isDigit t))))
  simp only [List.length_drop] at hpoint hfraction
  rw [mantissaLength, fractionLength]
  omega

/-- A number by its parts. -/
theorem readNumber_eq (afterWord : Bool) (t : Text) :
    readNumber afterWord t =
      if t.head? = some '.' && t.tail.head? = some '_' then
        if afterWord then .ok (.period, 0) else .error (.strayUnderscore, 0)
      else if t.take (digitRun Char.isDigit t) = ['0']
          && (t.drop (digitRun Char.isDigit t)).head? = some 'x' then
        .ok (.literal, digitRun Char.isDigit t
          + digitRun isHexDigit (t.drop (digitRun Char.isDigit t)).tail)
      else if digitRun Char.isDigit t = 0
          && fractionLength (t.drop (digitRun Char.isDigit t)) = 0 then .ok (.period, 0)
      else
        .ok (.literal, mantissaLength t + exponentLength (t.drop (mantissaLength t))
          + (if (t.drop (mantissaLength t + exponentLength (t.drop (mantissaLength t)))).head?
            = some 'L' then 1 else 0) - 1) := rfl

/-- A number ends in front of a delimiter, and what it is does not depend on
what follows. -/
theorem readNumber_append (hd : d ∈ delimiters) (afterWord : Bool) (c : Char) (x r : Text) :
    readNumber afterWord (c :: x ++ d :: r) = readNumber afterWord (c :: x) := by
  have hscore : d ≠ '_' := ne_of_mem d hd _ (by simp)
  have hx : d ≠ 'x' := ne_of_mem d hd _ (by simp)
  have hL : d ≠ 'L' := ne_of_mem d hd _ (by simp)
  have hpoint : d ≠ '.' := ne_of_mem d hd _ (by simp)
  have hstart : (c :: x ++ d :: r).tail.head? = some '_' ↔ (c :: x).tail.head? = some '_' :=
    head?_append_iff hscore x r
  generalize c :: x = t at hstart
  -- every part ends within the text before the delimiter
  have hwhole := digitRun_le Char.isDigit t
  have hmantissa := mantissaLength_le t
  have hexponent := exponentLength_le (t.drop (mantissaLength t))
  rw [List.length_drop] at hexponent
  have hend : mantissaLength t + exponentLength (t.drop (mantissaLength t)) ≤ t.length := by
    omega
  have hhex (h : (t.drop (digitRun Char.isDigit t)).head? = some 'x') :
      digitRun isHexDigit (t.drop (digitRun Char.isDigit t) ++ d :: r).tail
        = digitRun isHexDigit (t.drop (digitRun Char.isDigit t)).tail := by
    rw [List.tail_append_of_ne_nil (by rintro hnil; simp [hnil] at h),
      digitRun_append (escapeEnd_of_mem hd).not_hex (escapeEnd_of_mem hd).not_hex hscore]
  rw [readNumber_eq, readNumber_eq]
  simp only [hstart, head?_append_iff hpoint, head?_append_iff hx, head?_append_iff hL,
    wholeLength_append hd, mantissaLength_append hd, fractionLength_append hd,
    exponentLength_append hd, List.take_append_of_le_length hwhole,
    List.drop_append_of_le_length hwhole, List.drop_append_of_le_length hmantissa,
    List.drop_append_of_le_length hend]
  by_cases h : (t.drop (digitRun Char.isDigit t)).head? = some 'x'
  · rw [hhex h]
  · simp only [h, decide_false, Bool.and_false, Bool.false_eq_true, if_false]

theorem readNumber_le {afterWord : Bool} {c : Char} {x : Text} {t : Token} {n : Nat}
    (h : readNumber afterWord (c :: x) = .ok (t, n)) : n ≤ x.length := by
  have hlen : (c :: x).length = x.length + 1 := rfl
  generalize c :: x = s at h hlen
  have hwhole := digitRun_le Char.isDigit s
  have hhex := digitRun_le isHexDigit (s.drop (digitRun Char.isDigit s)).tail
  have hmantissa := mantissaLength_le s
  have hexponent := exponentLength_le (s.drop (mantissaLength s))
  rw [List.length_tail, List.length_drop] at hhex
  rw [List.length_drop] at hexponent
  have hlt {k : Nat} {e : Char} (h : (s.drop k).head? = some e) : k < s.length := by
    rw [List.head?_drop] at h
    exact (List.getElem?_eq_some_iff.mp h).1
  rw [readNumber_eq] at h
  split at h
  · split at h
    · obtain ⟨-, rfl⟩ := Prod.mk.inj (Except.ok.inj h)
      exact Nat.zero_le _
    · contradiction
  split at h
  · next hprefixed =>
    have hx := hlt (of_decide_eq_true (Bool.and_eq_true_iff.mp hprefixed).2)
    obtain ⟨-, rfl⟩ := Prod.mk.inj (Except.ok.inj h)
    omega
  split at h
  · obtain ⟨-, rfl⟩ := Prod.mk.inj (Except.ok.inj h)
    exact Nat.zero_le _
  · obtain ⟨-, rfl⟩ := Prod.mk.inj (Except.ok.inj h)
    split
    · next hlong =>
      have hL := hlt hlong
      omega
    · omega

/-! ## Operators -/

/-- Operators are not empty and hold no delimiter, and those that take any character are
the ones that `IsOpenOperator` names. -/
theorem operators_table : (∀ o ∈ operators, (∀ d ∈ delimiters, d ∉ o.1) ∧ o.1 ≠ []
      ∧ (o.2 = .swallowing ↔ o.1 = ['?'] ∨ o.1 = ['&', '>']))
    ∧ (['?'], .swallowing) ∈ operators ∧ (['&', '>'], .swallowing) ∈ operators := by
  decide

theorem not_mem_operators (hd : d ∈ delimiters) : ∀ o ∈ operators, d ∉ o.1 :=
  fun o ho => (operators_table.1 o ho).1 d hd

theorem operators_ne_nil : ∀ o ∈ operators, o.1 ≠ [] := fun o ho => (operators_table.1 o ho).2.1

theorem isOpenOperator_iff_swallowing :
    ∀ o ∈ operators, o.2 = .swallowing ↔ o.1 = ['?'] ∨ o.1 = ['&', '>'] :=
  fun o ho => (operators_table.1 o ho).2.2

theorem operatorAt?_append (hd : d ∈ delimiters) (x r : Text) :
    operatorAt? (x ++ d :: r) = operatorAt? x := by
  unfold operatorAt?
  have h : ∀ o ∈ operators, o.1.isPrefixOf (x ++ d :: r) = o.1.isPrefixOf x :=
    fun o ho => isPrefixOf_append (not_mem_operators hd o ho) x r
  generalize operators = os at h
  induction os with
  | nil => rfl
  | cons o os ih =>
    rw [List.find?_cons, List.find?_cons, h o List.mem_cons_self,
      ih fun o' ho' => h o' (List.mem_cons_of_mem o ho')]

theorem of_operatorAt? {t op : Text} {kind : OperatorKind} (h : operatorAt? t = some (op, kind)) :
    (op, kind) ∈ operators ∧ op ≠ [] ∧ op <+: t := by
  have hmem := List.mem_of_find?_eq_some h
  have hbegins := List.find?_some h
  exact ⟨hmem, operators_ne_nil _ hmem, List.isPrefixOf_iff_prefix.mp hbegins⟩

/-- Only the operators that take any character can be open. -/
theorem not_isOpenOperator {c : Char} {x op : Text} {kind : OperatorKind} {m : Nat}
    (h : operatorAt? (c :: x) = some (op, kind)) (hkind : kind ≠ .swallowing)
    (hm : op.length ≤ m + 1) : ¬ IsOpenOperator (c :: x.take m) := by
  obtain ⟨hmem, hne, hbegins⟩ := of_operatorAt? h
  rintro (hopen | hopen)
  · have hop : op <+: (c :: x).take (m + 1) := List.prefix_take_iff.mpr ⟨hbegins, hm⟩
    rw [List.take_succ_cons, hopen] at hop
    have hop : op = ['?'] := by
      rcases List.prefix_cons_iff.mp hop with h | ⟨s, rfl, hs⟩
      · contradiction
      · rw [List.prefix_nil.mp hs]
    exact hkind ((isOpenOperator_iff_swallowing _ hmem).mpr (.inl hop))
  · obtain ⟨rfl, hx⟩ := List.cons.inj hopen
    obtain ⟨y, rfl⟩ : ∃ y, x = '>' :: y := by
      have hp : ['>'] <+: x := hx ▸ List.take_prefix m x
      obtain ⟨y, hy⟩ := hp
      exact ⟨y, hy.symm⟩
    have hfound : operatorAt? ('&' :: '>' :: y) = some (['&', '>'], .swallowing) := rfl
    rw [hfound] at h
    injection h with h
    injection h with _ h
    exact hkind h.symm

theorem operatorTail_append (hd : d ∈ delimiters) (x r : Text) :
    operatorTail (x ++ d :: r) = operatorTail x := by
  rw [operatorTail, operatorTail, takeWhile_append_stop (not_isOperatorChar_of_mem d hd)]

/-- Where no operator is found none is open. -/
theorem not_isOpenOperator_of_none {c : Char} {x : Text} (h : operatorAt? (c :: x) = none) :
    ¬ IsOpenOperator (c :: x) := by
  have hnone := List.find?_eq_none.mp h
  rintro (hopen | hopen)
  · exact hnone (['?'], .swallowing) operators_table.2.1 (by rw [hopen]; rfl)
  · exact hnone (['&', '>'], .swallowing) operators_table.2.2 (by rw [hopen]; rfl)

/-- An operator that takes any character is open if no character stands behind
it. -/
theorem isOpenOperator_iff_of_swallowing {c : Char} {x op : Text}
    (h : operatorAt? (c :: x) = some (op, .swallowing)) :
    IsOpenOperator (c :: x) ↔ x.drop (op.length - 1) = [] := by
  obtain ⟨hmem, -, s, hs⟩ := of_operatorAt? h
  rcases (isOpenOperator_iff_swallowing _ hmem).mp rfl with rfl | rfl
  · obtain ⟨rfl, rfl⟩ := List.cons.inj hs
    simp [IsOpenOperator]
  · obtain ⟨rfl, rfl⟩ := List.cons.inj hs
    simp [IsOpenOperator]

theorem length_le_of_operatorAt? {c : Char} {x op : Text} {kind : OperatorKind}
    (h : operatorAt? (c :: x) = some (op, kind)) : 0 < op.length ∧ op.length ≤ x.length + 1 := by
  obtain ⟨-, hne, hbegins⟩ := of_operatorAt? h
  exact ⟨List.length_pos_iff.mpr hne, hbegins.length_le⟩

/-- An operator that takes any character takes the delimiter if no other
character stands behind it. -/
theorem swallowing_append {c : Char} {x op : Text}
    (h : operatorAt? (c :: x) = some (op, .swallowing)) (r : Text) (t : Token) (n : Nat) :
    (Except.ok (.symbol, op.length - 1 + min 1 (x.drop (op.length - 1) ++ d :: r).length) : Reading)
        = .ok (t, n) ∧ n ≤ x.length
      ↔ (Except.ok (.symbol, op.length - 1 + min 1 (x.drop (op.length - 1)).length) : Reading)
          = .ok (t, n) ∧ (n = x.length → ¬ IsOpenOperator (c :: x)) := by
  have hlen := length_le_of_operatorAt? h
  have hsize : x.length = op.length - 1 + (x.drop (op.length - 1)).length := by
    rw [List.length_drop]
    omega
  rw [isOpenOperator_iff_of_swallowing h]
  cases hbehind : x.drop (op.length - 1) with
  | nil =>
    rw [hbehind, List.length_nil, Nat.add_zero] at hsize
    constructor
    · rintro ⟨h, hle⟩
      obtain ⟨-, rfl⟩ := Prod.mk.inj (Except.ok.inj h)
      simp only [List.nil_append, List.length_cons] at hle
      omega
    · rintro ⟨h, hopen⟩
      obtain ⟨-, rfl⟩ := Prod.mk.inj (Except.ok.inj h)
      exact absurd rfl (hopen hsize.symm)
  | cons e y =>
    rw [hbehind, List.length_cons] at hsize
    have hmin (s : Text) : min 1 (e :: s).length = 1 := by simp
    rw [List.cons_append, hmin, hmin]
    refine and_congr_right fun h => ?_
    obtain ⟨-, rfl⟩ := Prod.mk.inj (Except.ok.inj h)
    exact iff_of_true (by omega) fun _ => List.cons_ne_nil e y

theorem readOperator_append (hd : d ∈ delimiters) (c : Char) (x r : Text) (t : Token) (n : Nat) :
    readOperator c (x ++ d :: r) = .ok (t, n) ∧ n ≤ x.length
      ↔ readOperator c x = .ok (t, n) ∧ (n = x.length → ¬ IsOpenOperator (c :: x)) := by
  have hfind : operatorAt? (c :: (x ++ d :: r)) = operatorAt? (c :: x) :=
    operatorAt?_append hd (c :: x) r
  rw [readOperator, readOperator, hfind]
  cases hat : operatorAt? (c :: x) with
  | none =>
    refine and_congr_right fun h => ?_
    obtain ⟨-, rfl⟩ := Prod.mk.inj (Except.ok.inj h)
    exact iff_of_true (Nat.zero_le _) fun _ => not_isOpenOperator_of_none hat
  | some found =>
    obtain ⟨op, kind⟩ := found
    obtain ⟨hpos, hsize⟩ := length_le_of_operatorAt? hat
    have hlen : op.length - 1 ≤ x.length := by omega
    have htail : operatorTail (x.drop (op.length - 1)) ≤ (x.drop (op.length - 1)).length :=
      length_takeWhile_le _ _
    rw [List.length_drop] at htail
    -- an operator that ends by itself is read alike and is not open
    have hends (hkind : kind ≠ .swallowing) {m : Nat} (hm : op.length ≤ m + 1 ∧ m ≤ x.length)
        (h : (Except.ok (.symbol, m) : Reading) = .ok (t, n)) :
        n ≤ x.length ↔ (n = x.length → ¬ IsOpenOperator (c :: x)) := by
      obtain ⟨-, rfl⟩ := Prod.mk.inj (Except.ok.inj h)
      refine iff_of_true hm.2 fun hx => ?_
      have hclosed := not_isOpenOperator hat hkind hm.1
      rwa [hx, List.take_length] at hclosed
    simp only [List.drop_append_of_le_length hlen, operatorTail_append hd]
    cases kind with
    | fixed => exact and_congr_right (hends (by simp) (by omega))
    | greedy => exact and_congr_right (hends (by simp) (by omega))
    | unfinished =>
      refine and_congr_right fun h => ?_
      simp only at h
      split at h
      · contradiction
      · exact hends (by simp) (by omega) h
    | swallowing => exact swallowing_append hat r t n

/-! ## One token -/

theorem isOpenComment_iff {x : Text} :
    IsOpenComment ('-' :: '-' :: x) ↔ ¬ ∃ c ∈ x, c = '\n' ∨ c = '\r' := by
  simp [IsOpenComment]

/-- A comment line reaches a delimiter behind it unless it is closed. -/
theorem readComment_append (x r : Text) (n : Nat) :
    lineCommentLength (x ++ d :: r) + 1 = n ∧ n ≤ x.length + 1
      ↔ lineCommentLength x + 1 = n ∧ (n = x.length + 1 → ¬ IsOpenComment ('-' :: '-' :: x)) := by
  rw [isOpenComment_iff]
  by_cases hclosed : ∃ c ∈ x, c = '\n' ∨ c = '\r'
  · rw [lineCommentLength_append_eq (d :: r) hclosed]
    grind [lineCommentLength_le x]
  · have hlen := lineCommentLength_eq_length (x := x) (by grind)
    have hover := lineCommentLength_append (d := d) x r
    grind

/-- Characters that begin a token of their own kind, whatever follows. -/
def marks : List Char := [' ', '\t', '\n', '\r', '(', ')', ',', ';', '[', ']', '\'', '"', '$']

theorem readToken_other {afterWord : Bool} {c : Char} {x : Text} (hc : c ∉ marks)
    (hline : c = '-' → ∀ y, x ≠ '-' :: y) (hblock : c = '/' → ∀ y, x ≠ '*' :: y) :
    readToken afterWord c x =
      if c.isDigit || c = '.' then readNumber afterWord (c :: x)
      else if isNameStart c then readWord c x
      else if Text.isBlank c then .ok (.blank, 0)
      else readOperator c x := by
  unfold readToken
  split
  case h_14 y => exact absurd rfl (hline rfl y)
  case h_15 y => exact absurd rfl (hblock rfl y)
  case h_17 => rfl
  all_goals exact absurd (by decide) hc

theorem waits_iff_isOpenOperator {c : Char} {x : Text} (hc : c ≠ '\r')
    (hline : c = '-' → ∀ y, x ≠ '-' :: y) : Waits d (c :: x) ↔ IsOpenOperator (c :: x) := by
  have hcomment : ¬ IsOpenComment (c :: x) := by
    rintro ⟨⟨y, hy⟩, -⟩
    injection hy with hc hx
    exact hline hc.symm y hx.symm
  simp [Waits, hcomment, hc]

theorem mem_of_isOpenOperator {c : Char} {x : Text} (h : IsOpenOperator (c :: x)) :
    c ∈ ['?', '&'] := by
  rcases h with h | h
  · simp [(List.cons.inj h).1]
  · simp [(List.cons.inj h).1]

/-- A carriage return by itself. -/
theorem readToken_return {afterWord : Bool} {x : Text} (h : ∀ y, x ≠ '\n' :: y) :
    readToken afterWord '\r' x = .ok (.blank, 0) := by
  unfold readToken
  split
  case h_4 y _ => exact absurd rfl (h y)
  case h_5 => rfl
  all_goals contradiction

/-- A carriage return takes a line feed behind it, and nothing else. -/
theorem readToken_return_append (afterWord : Bool) (x r : Text) (t : Token) (n : Nat) :
    readToken afterWord '\r' (x ++ d :: r) = .ok (t, n) ∧ n ≤ x.length
      ↔ readToken afterWord '\r' x = .ok (t, n) ∧ (n = x.length → ¬ Waits d ('\r' :: x)) := by
  have hwaits : Waits d ('\r' :: x) ↔ x = [] ∧ d = '\n' := by
    simp [Waits, IsOpenComment, IsOpenOperator]
  rw [hwaits]
  by_cases hfeed : ∃ y, x = '\n' :: y
  · obtain ⟨y, rfl⟩ := hfeed
    refine and_congr_right fun h => ?_
    obtain ⟨-, rfl⟩ := Prod.mk.inj (Except.ok.inj h)
    exact iff_of_true (Nat.le_add_left 1 _) (by simp)
  · rw [readToken_return (x := x) fun y hy => hfeed ⟨y, hy⟩]
    by_cases hlast : x = [] ∧ d = '\n'
    · obtain ⟨rfl, rfl⟩ := hlast
      constructor
      · rintro ⟨h, hle⟩
        obtain ⟨-, rfl⟩ := Prod.mk.inj (Except.ok.inj h)
        contradiction
      · rintro ⟨h, hw⟩
        obtain ⟨-, rfl⟩ := Prod.mk.inj (Except.ok.inj h)
        exact absurd ⟨rfl, rfl⟩ (hw rfl)
    · have hnext : ∀ y, x ++ d :: r ≠ '\n' :: y := by
        intro y hy
        cases x with
        | nil => exact hlast ⟨rfl, (List.cons.inj hy).1⟩
        | cons e x => exact hfeed ⟨x, by rw [(List.cons.inj hy).1]⟩
      rw [readToken_return hnext]
      refine and_congr_right fun h => ?_
      obtain ⟨-, rfl⟩ := Prod.mk.inj (Except.ok.inj h)
      exact iff_of_true (Nat.zero_le _) fun _ => hlast

theorem readToken_line_append (afterWord : Bool) (x r : Text) (t : Token) (n : Nat) :
    readToken afterWord '-' ('-' :: (x ++ d :: r)) = .ok (t, n) ∧ n ≤ x.length + 1
      ↔ readToken afterWord '-' ('-' :: x) = .ok (t, n)
        ∧ (n = x.length + 1 → ¬ Waits d ('-' :: '-' :: x)) := by
  have hwaits : Waits d ('-' :: '-' :: x) ↔ IsOpenComment ('-' :: '-' :: x) := by
    simp [Waits, IsOpenOperator]
  rw [hwaits]
  simp only [readToken, Except.ok.injEq, Prod.mk.injEq, and_assoc]
  exact and_congr_right fun _ => readComment_append x r n

theorem readToken_name {afterWord : Bool} {x : Text} {t : Token} {n : Nat} :
    readToken afterWord '"' x = .ok (t, n)
      ↔ ∃ value, t = .word value true ∧ quotedValue '"' x = some (value, n) := by
  rw [readToken]
  cases quotedValue '"' x with
  | none => simp
  | some p =>
    obtain ⟨v, m⟩ := p
    constructor
    · intro h
      obtain ⟨rfl, rfl⟩ := Prod.mk.inj (Except.ok.inj h)
      exact ⟨v, rfl, rfl⟩
    · rintro ⟨w, rfl, hw⟩
      obtain ⟨rfl, rfl⟩ := Prod.mk.inj (Option.some.inj hw)
      rfl

theorem readToken_name_append (hdouble : d ≠ '"') (afterWord : Bool) (x r : Text) (t : Token)
    (n : Nat) :
    readToken afterWord '"' (x ++ d :: r) = .ok (t, n) ∧ n ≤ x.length
      ↔ readToken afterWord '"' x = .ok (t, n) := by
  simp only [readToken_name, ← quotedValue_append hdouble x r, exists_and_right, ← and_assoc]

theorem readToken_block {afterWord : Bool} {x : Text} {t : Token} {n : Nat} :
    readToken afterWord '/' ('*' :: x) = .ok (t, n)
      ↔ t = .blank ∧ (blockCommentLength 0 x).map (· + 1) = some n := by
  rw [readToken]
  cases blockCommentLength 0 x <;> simp [eq_comm]

theorem readToken_block_append (afterWord : Bool) (x r : Text) (t : Token) (n : Nat) :
    readToken afterWord '/' ('*' :: (x ++ d :: r)) = .ok (t, n) ∧ n ≤ x.length + 1
      ↔ readToken afterWord '/' ('*' :: x) = .ok (t, n) := by
  have hlength := blockCommentLength_append (d := d) 0 x r
  rw [readToken_block, readToken_block, and_assoc]
  exact and_congr_right fun _ => map_within id 1 (fun _ => rfl) hlength n

/-- Only an operator can wait among the tokens with no mark of their own. -/
theorem readToken_other_append (hd : d ∈ delimiters) (afterWord : Bool) {c : Char} {x : Text}
    (hc : c ∉ marks) (hline : c = '-' → ∀ y, x ≠ '-' :: y) (hblock : c = '/' → ∀ y, x ≠ '*' :: y)
    (r : Text) (t : Token) (n : Nat) :
    readToken afterWord c (x ++ d :: r) = .ok (t, n) ∧ n ≤ x.length
      ↔ readToken afterWord c x = .ok (t, n) ∧ (n = x.length → ¬ Waits d (c :: x)) := by
  have hdash : d ≠ '-' := ne_of_mem d hd _ (by simp)
  have hstar : d ≠ '*' := ne_of_mem d hd _ (by simp)
  have hreturn : c ≠ '\r' := ne_of_mem_of_not_mem (by decide) hc |>.symm
  have hopen : ∀ c ∈ ['?', '&'], (c.isDigit || c = '.') = false ∧ isNameStart c = false
      ∧ Text.isBlank c = false := by decide
  rw [readToken_other hc hline hblock, readToken_other hc
    (fun h => append_ne_cons (hline h) hdash) (fun h => append_ne_cons (hblock h) hstar),
    waits_iff_isOpenOperator hreturn hline]
  split
  · next hdigit =>
    have hclosed : ¬ IsOpenOperator (c :: x) := by
      intro h
      have hnot := (hopen c (mem_of_isOpenOperator h)).1
      rw [hnot] at hdigit
      contradiction
    rw [← List.cons_append, readNumber_append hd, and_iff_left_of_imp readNumber_le]
    exact (and_iff_left fun _ => hclosed).symm
  split
  · next hname =>
    have hclosed : ¬ IsOpenOperator (c :: x) := by
      intro h
      have hnot := (hopen c (mem_of_isOpenOperator h)).2.1
      rw [hnot] at hname
      contradiction
    rw [readWord_append hd]
    exact (and_iff_left fun _ => hclosed).symm
  split
  · next hblank =>
    have hclosed : ¬ IsOpenOperator (c :: x) := by
      intro h
      have hnot := (hopen c (mem_of_isOpenOperator h)).2.2
      rw [hnot] at hblank
      contradiction
    refine and_congr_right fun h => ?_
    obtain ⟨-, rfl⟩ := Prod.mk.inj (Except.ok.inj h)
    exact iff_of_true (Nat.zero_le _) fun _ => hclosed
  · exact readOperator_append hd c x r t n

theorem readToken_append (hd : d ∈ delimiters) (afterWord : Bool) (c : Char) (x r : Text)
    (t : Token) (n : Nat) :
    readToken afterWord c (x ++ d :: r) = .ok (t, n) ∧ n ≤ x.length
      ↔ readToken afterWord c x = .ok (t, n) ∧ (n = x.length → ¬ Waits d (c :: x)) := by
  have hsingle : d ≠ '\'' := ne_of_mem d hd _ (by simp)
  have hdouble : d ≠ '"' := ne_of_mem d hd _ (by simp)
  have hclosed {P Q : Prop} (h : P ↔ Q) (hc : c ∉ ['-', '?', '&', '\r']) :
      P ↔ Q ∧ (n = x.length → ¬ Waits d (c :: x)) :=
    h.trans (and_iff_left fun _ => mt mem_of_waits hc).symm
  have hmark (mark : Token) : (Except.ok (mark, 0) : Reading) = .ok (t, n) ∧ n ≤ x.length
      ↔ (Except.ok (mark, 0) : Reading) = .ok (t, n) := by
    refine and_iff_left_of_imp fun h => ?_
    obtain ⟨-, rfl⟩ := Prod.mk.inj (Except.ok.inj h)
    exact Nat.zero_le _
  by_cases hc : c ∈ marks
  · simp only [marks, List.mem_cons, List.not_mem_nil, or_false] at hc
    rcases hc with rfl | rfl | rfl | rfl | rfl | rfl | rfl | rfl | rfl | rfl | rfl | rfl | rfl
    · exact hclosed (hmark .blank) (by decide)
    · exact hclosed (hmark .blank) (by decide)
    · exact hclosed (hmark .blank) (by decide)
    · exact readToken_return_append afterWord x r t n
    · exact hclosed (hmark .leftParen) (by decide)
    · exact hclosed (hmark .rightParen) (by decide)
    · exact hclosed (hmark .comma) (by decide)
    · exact hclosed (hmark .semicolon) (by decide)
    · exact hclosed (hmark .leftBracket) (by decide)
    · exact hclosed (hmark .rightBracket) (by decide)
    · exact hclosed (literalOf_within 0 (quotedLength_append hsingle x r) t n) (by decide)
    · exact hclosed (readToken_name_append hdouble afterWord x r t n) (by decide)
    · exact hclosed (readDollar_append hd x r t n) (by decide)
  by_cases hline : ∃ y, c = '-' ∧ x = '-' :: y
  · obtain ⟨y, rfl, rfl⟩ := hline
    exact readToken_line_append afterWord y r t n
  by_cases hblock : ∃ y, c = '/' ∧ x = '*' :: y
  · obtain ⟨y, rfl, rfl⟩ := hblock
    exact hclosed (readToken_block_append afterWord y r t n) (by decide)
  exact readToken_other_append hd afterWord hc (fun h y hx => hline ⟨y, h, hx⟩)
    (fun h y hx => hblock ⟨y, h, hx⟩) r t n

end TableScaffold.Sql
