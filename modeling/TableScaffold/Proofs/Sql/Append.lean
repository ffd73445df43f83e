import TableScaffold.Proofs.Sql.Boundary

set_option autoImplicit false

/-!
# Reading a text in parts

`lexemes_append` says when the lexemes of a text are those of a piece and those
of the rest, which begins with a delimiter: exactly when the last lexeme of the
piece does not wait for the delimiter.
-/

namespace TableScaffold.Sql

variable {d : Char}

/-- The text that a list of lexemes was read from. -/
def textOf (xs : List Lexeme) : Text := (xs.map Lexeme.text).flatten

@[simp] theorem textOf_nil : textOf [] = [] := rfl

@[simp] theorem textOf_cons (l : Lexeme) (xs : List Lexeme) :
    textOf (l :: xs) = l.text ++ textOf xs := rfl

@[simp] theorem textOf_append (xs ys : List Lexeme) :
    textOf (xs ++ ys) = textOf xs ++ textOf ys := by
  simp [textOf]

/-- One step of the lexer, read from the lexemes it gives. -/
theorem lexemes_cons_iff {afterWord : Bool} {t : Text} {l : Lexeme} {xs : List Lexeme} :
    lexemes afterWord t = .ok (l :: xs) ↔ ∃ c r n, t = c :: r ∧
      readToken afterWord c r = .ok (l.token, n) ∧ l.text = c :: r.take n ∧
      lexemes l.token.isWord (r.drop n) = .ok xs := by
  constructor
  · intro h
    cases t with
    | nil => simp [lexemes] at h
    | cons c r =>
      rw [lexemes] at h
      cases hread : readToken afterWord c r with
      | error fault => simp [hread] at h
      | ok reading =>
        obtain ⟨token, n⟩ := reading
        simp only [hread] at h
        cases hrest : lexemes token.isWord (r.drop n) with
        | error fault => simp [hrest] at h
        | ok ys =>
          simp only [hrest, Except.ok.injEq, List.cons.injEq] at h
          obtain ⟨rfl, rfl⟩ := h
          exact ⟨c, r, n, rfl, hread, rfl, hrest⟩
  · rintro ⟨c, r, n, rfl, hread, htext, hrest⟩
    rw [lexemes, hread]
    simp only [hrest, ← htext]

theorem lexemes_eq_ok_nil {afterWord : Bool} {t : Text} :
    lexemes afterWord t = .ok [] ↔ t = [] := by
  constructor
  · intro h
    have := flatten_lexemes h
    simpa using this.symm
  · rintro rfl
    rw [lexemes]

/-- Only a period is read with regard to the token before it. -/
theorem readToken_afterWord {c : Char} (hc : c ≠ '.') (afterWord : Bool) (r : Text) :
    readToken afterWord c r = readToken false c r := by
  have hnumber : readNumber afterWord (c :: r) = readNumber false (c :: r) := by
    simp [readNumber, hc]
  unfold readToken
  split <;> simp_all

theorem lexemes_afterWord {c : Char} (hc : c ≠ '.') (afterWord : Bool) (r : Text) :
    lexemes afterWord (c :: r) = lexemes false (c :: r) := by
  rw [lexemes, lexemes, readToken_afterWord hc]

theorem readToken_le {afterWord : Bool} {c : Char} {x : Text} {t : Token} {n : Nat}
    (h : readToken afterWord c x = .ok (t, n)) : n ≤ x.length := by
  rcases Nat.lt_or_ge x.length n with hn | hn
  · exact ((readToken_append (d := ',') (by decide) afterWord c x [] t n).mpr
      ⟨h, fun heq => absurd heq (Nat.ne_of_gt hn)⟩).2
  · exact hn

/-- A piece whose lexemes begin those of a text is read alike by itself, and its
last lexeme does not wait for the delimiter behind it. -/
theorem of_lexemes_append (hd : d ∈ delimiters) {afterWord : Bool} {x r : Text}
    {xs ys : List Lexeme} (h : lexemes afterWord (x ++ d :: r) = .ok (xs ++ ys))
    (hx : textOf xs = x) :
    lexemes afterWord x = .ok xs ∧ (∀ l ∈ xs.getLast?, ¬ Waits d l.text)
      ∧ lexemes false (d :: r) = .ok ys := by
  induction xs generalizing afterWord x with
  | nil =>
    have hperiod : d ≠ '.' := ne_of_mem d hd _ (by simp)
    obtain rfl : [] = x := hx
    rw [List.nil_append, List.nil_append, lexemes_afterWord hperiod] at h
    exact ⟨lexemes_eq_ok_nil.mpr rfl, by simp, h⟩
  | cons l xs ih =>
    rw [List.cons_append] at h
    rw [textOf_cons] at hx
    obtain ⟨c, s, n, hs, hread, htext, hrest⟩ := lexemes_cons_iff.mp h
    -- the lexeme lies within the piece
    obtain ⟨x, rfl, hx⟩ : ∃ y, x = c :: y ∧ s.take n ++ textOf xs = y := by
      rw [htext] at hx
      exact ⟨_, hx.symm, rfl⟩
    obtain rfl : x ++ d :: r = s := by simpa using hs
    have hn : n ≤ x.length := by
      have hlen := congrArg List.length hx
      rw [List.length_append, List.length_take, List.length_append, List.length_cons] at hlen
      omega
    rw [List.take_append_of_le_length hn] at htext hx
    rw [List.drop_append_of_le_length hn] at hrest
    have hdrop : textOf xs = x.drop n := by
      refine (List.append_cancel_left_eq (x.take n) _ _).mp ?_
      rw [hx, List.take_append_drop]
    obtain ⟨hxs, hlast, hys⟩ := ih hrest hdrop
    obtain ⟨hread, hwaits⟩ := (readToken_append hd afterWord c x r l.token n).mp ⟨hread, hn⟩
    refine ⟨lexemes_cons_iff.mpr ⟨c, x, n, rfl, hread, htext, hxs⟩, ?_, hys⟩
    cases xs with
    | nil =>
      intro k hk
      obtain rfl : l = k := by simpa using hk
      rw [textOf_nil, List.append_nil] at hx
      rw [htext, hx]
      refine hwaits ?_
      have := List.drop_eq_nil_iff.mp hdrop.symm
      omega
    | cons k xs => simpa using hlast

/-- Texts that can be read are read one behind the other, if the first does not
wait for the delimiter that begins the second. -/
theorem lexemes_append_of (hd : d ∈ delimiters) {afterWord : Bool} {x r : Text}
    {xs ys : List Lexeme} (h : lexemes afterWord x = .ok xs)
    (hlast : ∀ l ∈ xs.getLast?, ¬ Waits d l.text) (hys : lexemes false (d :: r) = .ok ys) :
    lexemes afterWord (x ++ d :: r) = .ok (xs ++ ys) := by
  induction xs generalizing afterWord x with
  | nil =>
    have hperiod : d ≠ '.' := ne_of_mem d hd _ (by simp)
    obtain rfl := lexemes_eq_ok_nil.mp h
    rwa [List.nil_append, List.nil_append, lexemes_afterWord hperiod]
  | cons l xs ih =>
    obtain ⟨c, x, n, rfl, hread, htext, hrest⟩ := lexemes_cons_iff.mp h
    have hn := readToken_le hread
    have hwaits : n = x.length → ¬ Waits d (c :: x) := by
      intro heq
      rw [heq, List.drop_length, lexemes] at hrest
      injection hrest with hxs
      have := hlast l (by simp [← hxs])
      rwa [htext, heq, List.take_length] at this
    obtain ⟨hread, -⟩ := (readToken_append hd afterWord c x r l.token n).mpr ⟨hread, hwaits⟩
    have hrest : lexemes l.token.isWord (x.drop n ++ d :: r) = .ok (xs ++ ys) := by
      refine ih hrest ?_
      intro k hk
      refine hlast k ?_
      cases xs with
      | nil => simp at hk
      | cons e xs => simpa using hk
    refine lexemes_cons_iff.mpr ⟨c, x ++ d :: r, n, rfl, hread, ?_, ?_⟩
    · rw [htext, List.take_append_of_le_length hn]
    · rwa [List.drop_append_of_le_length hn]

/-- The lexemes of a text in parts.  `x` is the piece that the lexemes `xs` were
read from, and the rest begins with the delimiter `d`. -/
theorem lexemes_append (hd : d ∈ delimiters) (afterWord : Bool) (x r : Text)
    (xs ys : List Lexeme) :
    lexemes afterWord (x ++ d :: r) = .ok (xs ++ ys) ∧ textOf xs = x
      ↔ lexemes afterWord x = .ok xs ∧ (∀ l ∈ xs.getLast?, ¬ Waits d l.text)
        ∧ lexemes false (d :: r) = .ok ys := by
  constructor
  · rintro ⟨h, hx⟩
    exact of_lexemes_append hd h hx
  · rintro ⟨h, hlast, hys⟩
    exact ⟨lexemes_append_of hd h hlast hys, flatten_lexemes h⟩

end TableScaffold.Sql
