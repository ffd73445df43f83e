import TableScaffold.Sql.Statement
import TableScaffold.Proofs.Text.Offset
import TableScaffold.Proofs.Sql.Append

set_option autoImplicit false

/-!
# Cutting a schema into statements

The statements of a schema are its lexemes, cut at the semicolons
(`statements_eq_ok`).  Joining them gives back the schema (`join_statements`), and
`statements_join` says which lists of texts are the statements of the schema that
they make up: those of statements that do not reach for the semicolon behind them.
-/

namespace TableScaffold.Sql

theorem readWord_ne_semicolon {c : Char} {r : Text} {n : Nat} :
    readWord c r ≠ .ok (.semicolon, n) := by
  have hunicode (r : Text) : readWord.readUnicodeString r ≠ .ok (.semicolon, n) := by
    fun_cases readWord.readUnicodeString r <;> simp
  fun_cases readWord c r <;> simp [literalOf_eq_ok, hunicode, readName]

theorem readDollar_ne_semicolon {r : Text} {n : Nat} : readDollar r ≠ .ok (.semicolon, n) := by
  unfold readDollar
  split
  · simp [literalOf_eq_ok]
  · dsimp only
    split <;> simp [literalOf_eq_ok]

theorem readNumber_ne_semicolon {afterWord : Bool} {t : Text} {n : Nat} :
    readNumber afterWord t ≠ .ok (.semicolon, n) := by
  unfold readNumber
  grind

theorem readOperator_ne_semicolon {c : Char} {r : Text} {n : Nat} :
    readOperator c r ≠ .ok (.semicolon, n) := by
  unfold readOperator
  grind

/-- Only a semicolon is read as one. -/
theorem of_readToken_semicolon {afterWord : Bool} {c : Char} {r : Text} {n : Nat} :
    readToken afterWord c r = .ok (.semicolon, n) → c = ';' ∧ n = 0 := by
  fun_cases readToken afterWord c r <;>
    simp_all [literalOf_eq_ok, readWord_ne_semicolon, readDollar_ne_semicolon,
      readNumber_ne_semicolon, readOperator_ne_semicolon]

theorem text_of_semicolon {afterWord : Bool} {t : Text} {xs : List Lexeme}
    (h : lexemes afterWord t = .ok xs) : ∀ l ∈ xs, l.token = .semicolon → l.text = [';'] := by
  induction xs generalizing afterWord t with
  | nil => simp
  | cons k xs ih =>
    obtain ⟨c, r, n, -, hread, htext, hrest⟩ := lexemes_cons_iff.mp h
    intro l hl htoken
    rcases List.mem_cons.mp hl with rfl | hl
    · rw [htoken] at hread
      obtain ⟨rfl, rfl⟩ := of_readToken_semicolon hread
      rw [htext, List.take_zero]
    · exact ih hrest l hl htoken

/-! ## Pieces as lists of lexemes -/

/-- The lexemes of a schema, cut at the semicolons. -/
def cutAtSemicolons (xs : List Lexeme) : List (List Lexeme) :=
  xs.splitOnP (·.token = .semicolon)

theorem cutAtSemicolons_cons (l : Lexeme) (xs : List Lexeme) :
    cutAtSemicolons (l :: xs) = if l.token = .semicolon then [] :: cutAtSemicolons xs
      else (cutAtSemicolons xs).modifyHead (l :: ·) := by
  simp [cutAtSemicolons, List.splitOnP_cons_eq_if_modifyHead]

theorem cutAtSemicolons_eq_singleton {xs : List Lexeme} (h : ∀ l ∈ xs, l.token ≠ .semicolon) :
    cutAtSemicolons xs = [xs] :=
  List.splitOnP_eq_singleton (by simpa using h)

theorem cutAtSemicolons_append_cons {xs : List Lexeme} (h : ∀ l ∈ xs, l.token ≠ .semicolon)
    {cut : Lexeme} (hcut : cut.token = .semicolon) (ys : List Lexeme) :
    cutAtSemicolons (xs ++ cut :: ys) = xs :: cutAtSemicolons ys :=
  List.splitOnP_append_cons_of_forall_mem (by simpa using h) cut (by simpa using hcut) ys

/-- A list of lexemes is free of semicolons or has a first one. -/
theorem semicolon_cases (xs : List Lexeme) :
    (∀ l ∈ xs, l.token ≠ .semicolon) ∨ ∃ ys cut zs, xs = ys ++ cut :: zs
      ∧ (∀ l ∈ ys, l.token ≠ .semicolon) ∧ cut.token = .semicolon := by
  induction xs with
  | nil => simp
  | cons l xs ih =>
    by_cases hl : l.token = .semicolon
    · exact .inr ⟨[], l, xs, rfl, by simp, hl⟩
    · rcases ih with h | ⟨ys, cut, zs, rfl, hys, hcut⟩
      · exact .inl (by simpa [hl] using h)
      · exact .inr ⟨l :: ys, cut, zs, rfl, by simpa [hl] using hys, hcut⟩

/-- The places around a lexeme as byte offsets.  `before` is the text in front of
the current piece and `mid` what is read of it. -/
theorem byteOffset_around {t before mid : Text} {l : Lexeme} {xs : List Lexeme}
    (ht : before ++ mid ++ textOf (l :: xs) = t) :
    Text.byteOffset t (Location.start.after (before ++ mid))
        = Text.byteCount before + Text.byteCount mid
      ∧ Text.byteOffset t (Location.start.after (before ++ mid ++ l.text))
        = Text.byteCount (before ++ mid ++ l.text) := by
  constructor
  · rw [← ht, Text.byteOffset_after, Text.byteCount_append]
  · rw [← ht, textOf_cons, ← List.append_assoc, Text.byteOffset_after]

/-- The places of the semicolons give back the text between them. -/
theorem piecesBetween_place {t before mid : Text} {xs : List Lexeme}
    (ht : before ++ mid ++ textOf xs = t) :
    piecesBetween t (Text.byteCount before)
        ((place (Location.start.after (before ++ mid)) xs).filter (·.token = .semicolon))
      = ((cutAtSemicolons xs).map textOf).modifyHead (mid ++ ·) := by
  induction xs generalizing before mid with
  | nil => simp [← ht, place, piecesBetween, cutAtSemicolons]
  | cons l xs ih =>
    have hplace : (Location.start.after (before ++ mid)).after l.text
        = Location.start.after (before ++ mid ++ l.text) :=
      (Location.after_append _ _ _).symm
    have hnext : before ++ mid ++ l.text ++ textOf xs = t := by
      rw [← ht, textOf_cons, List.append_assoc _ l.text]
    rw [place, List.filter_cons, hplace, cutAtSemicolons_cons]
    by_cases hl : l.token = .semicolon
    · obtain ⟨hfirst, hlast⟩ := byteOffset_around ht
      have hslice : Text.slice t (Text.byteCount before)
          (Text.byteCount before + Text.byteCount mid) = mid := by
        rw [← ht, List.append_assoc, Text.slice_append]
      have hrest := @ih (before ++ mid ++ l.text) [] (by rw [List.append_nil, hnext])
      rw [List.append_nil] at hrest
      simp only [hl, decide_true, if_true, piecesBetween, hfirst, hlast, hslice, hrest]
      cases cutAtSemicolons xs <;> simp
    · have hrest := @ih before (mid ++ l.text) (by rw [← List.append_assoc, hnext])
      rw [← List.append_assoc] at hrest
      simp only [hl, decide_false, Bool.false_eq_true, if_false, hrest]
      cases cutAtSemicolons xs <;> simp

/-! ## Slices -/

/-- Two byte offsets that stand between characters of a text, the first of them
not behind the second. -/
def IsSlice (t : Text) (first last : Nat) : Prop :=
  ∃ before piece behind, t = before ++ (piece ++ behind)
    ∧ first = Text.byteCount before ∧ last = Text.byteCount before + Text.byteCount piece

/-- The bounds of the slices that `piecesBetween` takes. -/
def slicesBetween (t : Text) (first : Nat) : List Placed → List (Nat × Nat)
  | [] => [(first, Text.byteCount t)]
  | cut :: cuts =>
    (first, Text.byteOffset t cut.first) :: slicesBetween t (Text.byteOffset t cut.last) cuts

theorem isSlice_of_mem_slicesBetween {t before mid : Text} {xs : List Lexeme}
    (ht : before ++ mid ++ textOf xs = t) :
    ∀ b ∈ slicesBetween t (Text.byteCount before)
        ((place (Location.start.after (before ++ mid)) xs).filter (·.token = .semicolon)),
      IsSlice t b.1 b.2 := by
  induction xs generalizing before mid with
  | nil =>
    intro b hb
    obtain rfl : b = (Text.byteCount before, Text.byteCount t) := by
      simpa [place, slicesBetween] using hb
    refine ⟨before, mid, [], ?_, rfl, ?_⟩ <;> simp [← ht]
  | cons l xs ih =>
    have hplace : (Location.start.after (before ++ mid)).after l.text
        = Location.start.after (before ++ mid ++ l.text) :=
      (Location.after_append _ _ _).symm
    have hnext : before ++ mid ++ l.text ++ textOf xs = t := by
      rw [← ht, textOf_cons, List.append_assoc _ l.text]
    rw [place, List.filter_cons, hplace]
    by_cases hl : l.token = .semicolon
    · obtain ⟨hfirst, hlast⟩ := byteOffset_around ht
      simp only [hl, decide_true, if_true, slicesBetween, hfirst, hlast]
      refine List.forall_mem_cons.mpr ⟨?_, ?_⟩
      · refine ⟨before, mid, textOf (l :: xs), ?_, rfl, rfl⟩
        rw [← ht, List.append_assoc]
      · have := @ih (before ++ mid ++ l.text) [] (by rw [List.append_nil, hnext])
        rwa [List.append_nil] at this
    · have := @ih before (mid ++ l.text) (by rw [← List.append_assoc, hnext])
      rw [← List.append_assoc] at this
      simpa [hl] using this

theorem lex_eq_ok {t : Text} {xs : List Lexeme} : lex t = .ok xs ↔ lexemes false t = .ok xs := by
  unfold lex
  split <;> simp_all

/-- The statements of a text are its lexemes, cut at the semicolons. -/
theorem statements_eq_ok {t : Text} {pieces : List Text} :
    statements t = .ok pieces
      ↔ ∃ xs, lexemes false t = .ok xs ∧ (cutAtSemicolons xs).map textOf = pieces := by
  have hpieces {xs : List Lexeme} (h : lexemes false t = .ok xs) :
      piecesBetween t 0 ((place Location.start xs).filter (·.token = .semicolon))
        = (cutAtSemicolons xs).map textOf := by
    have := @piecesBetween_place t [] [] xs (flatten_lexemes h)
    simp only [List.append_nil, Location.after_nil, Text.byteCount_nil, List.nil_append] at this
    rw [this]
    cases cutAtSemicolons xs <;> simp
  constructor
  · intro h
    unfold statements tokens at h
    cases hlex : lex t with
    | error e => simp [hlex, Except.map] at h
    | ok xs =>
      have hxs := lex_eq_ok.mp hlex
      rw [hlex] at h
      simp only [Except.map, hpieces hxs, Except.ok.injEq] at h
      exact ⟨xs, hxs, h⟩
  · rintro ⟨xs, hxs, rfl⟩
    unfold statements tokens
    rw [lex_eq_ok.mpr hxs, ← hpieces hxs]
    rfl

/-- A text that is a single statement has no semicolon among its lexemes. -/
theorem statements_eq_singleton {s : Text} :
    statements s = .ok [s]
      ↔ ∃ xs, lexemes false s = .ok xs ∧ ∀ l ∈ xs, l.token ≠ .semicolon := by
  rw [statements_eq_ok]
  constructor
  · rintro ⟨xs, hxs, hcut⟩
    refine ⟨xs, hxs, ?_⟩
    rcases semicolon_cases xs with h | ⟨ys, cut, zs, rfl, hys, hcut'⟩
    · exact h
    · rw [cutAtSemicolons_append_cons hys hcut'] at hcut
      have hne := List.splitOnP_ne_nil (fun l : Lexeme => l.token = .semicolon) zs
      simp [cutAtSemicolons, hne] at hcut
  · rintro ⟨xs, hxs, h⟩
    refine ⟨xs, hxs, ?_⟩
    rw [cutAtSemicolons_eq_singleton h]
    exact congrArg (fun t => [t]) (flatten_lexemes hxs)

/-! ## Texts that reach for the next character -/

/-- The text of the last token of a text that can be read and is not empty. -/
def lastToken? (s : Text) : Option Text :=
  match lexemes false s with
  | .ok xs => xs.getLast?.map Lexeme.text
  | .error _ => none

/-- A text whose last token is a line comment without a line end. -/
def EndsInLineComment (s : Text) : Prop := ∃ t ∈ lastToken? s, IsOpenComment t

/-- A text whose last token is an operator that takes the next character. -/
def EndsInOpenOperator (s : Text) : Prop := ∃ t ∈ lastToken? s, IsOpenOperator t

instance (s : Text) : Decidable (EndsInLineComment s) :=
  inferInstanceAs (Decidable (∃ t ∈ lastToken? s, _))

instance (s : Text) : Decidable (EndsInOpenOperator s) :=
  inferInstanceAs (Decidable (∃ t ∈ lastToken? s, _))

theorem not_waits_semicolon {s : Text} {xs : List Lexeme} (h : lexemes false s = .ok xs) :
    (∀ l ∈ xs.getLast?, ¬ Waits ';' l.text)
      ↔ ¬ EndsInLineComment s ∧ ¬ EndsInOpenOperator s := by
  have hwaits (t : Text) : Waits ';' t ↔ IsOpenComment t ∨ IsOpenOperator t := by
    simp [Waits]
  simp only [hwaits, EndsInLineComment, EndsInOpenOperator, lastToken?, h]
  cases xs.getLast? <;> simp

/-! ## Cutting and joining -/

theorem lexemes_semicolon {r : Text} {xs : List Lexeme} :
    lexemes false (';' :: r) = .ok xs
      ↔ ∃ ys, xs = ⟨.semicolon, [';']⟩ :: ys ∧ lexemes false r = .ok ys := by
  have hread : readToken false ';' r = .ok (.semicolon, 0) := rfl
  rw [lexemes, hread]
  simp only [List.drop_zero, List.take_zero, Token.isWord]
  cases lexemes false r with
  | error fault => simp
  | ok ys => simp [eq_comm]

/-- The first statement of a schema stands in front of a semicolon exactly when
it is a statement by itself and does not reach for that semicolon. -/
theorem statements_cons {s r : Text} {pieces : List Text} :
    statements (s ++ ';' :: r) = .ok (s :: pieces)
      ↔ statements s = .ok [s] ∧ ¬ EndsInLineComment s ∧ ¬ EndsInOpenOperator s
        ∧ statements r = .ok pieces := by
  have hd : ';' ∈ delimiters := by decide
  constructor
  · intro h
    obtain ⟨all, hall, hcut⟩ := statements_eq_ok.mp h
    rcases semicolon_cases all with hnone | ⟨xs, cut, zs, rfl, hxs, hcut'⟩
    · -- the text would be one statement, longer than its first one
      rw [cutAtSemicolons_eq_singleton hnone, List.map_singleton, List.cons.injEq] at hcut
      have := (flatten_lexemes hall).symm.trans hcut.1
      simp at this
    · rw [cutAtSemicolons_append_cons hxs hcut', List.map_cons, List.cons.injEq] at hcut
      obtain ⟨hs, hpieces⟩ := hcut
      obtain ⟨hlex, hlast, hrest⟩ := (lexemes_append hd false s r xs (cut :: zs)).mp ⟨hall, hs⟩
      obtain ⟨ys, heq, hys⟩ := lexemes_semicolon.mp hrest
      obtain ⟨-, rfl⟩ := List.cons.inj heq
      obtain ⟨hcomment, hoperator⟩ := (not_waits_semicolon hlex).mp hlast
      exact ⟨statements_eq_singleton.mpr ⟨xs, hlex, hxs⟩, hcomment, hoperator,
        statements_eq_ok.mpr ⟨zs, hys, hpieces⟩⟩
  · rintro ⟨hs, hcomment, hoperator, hr⟩
    obtain ⟨xs, hlex, hxs⟩ := statements_eq_singleton.mp hs
    obtain ⟨ys, hys, hpieces⟩ := statements_eq_ok.mp hr
    have hlast := (not_waits_semicolon hlex).mpr ⟨hcomment, hoperator⟩
    obtain ⟨hall, htext⟩ := (lexemes_append hd false s r xs (⟨.semicolon, [';']⟩ :: ys)).mpr
      ⟨hlex, hlast, lexemes_semicolon.mpr ⟨ys, rfl, hys⟩⟩
    refine statements_eq_ok.mpr ⟨_, hall, ?_⟩
    rw [cutAtSemicolons_append_cons hxs rfl, List.map_cons, hpieces, htext]

/-- The statements of two schemas with a semicolon between them are those of the first one
and those of the second one, if the first one does not reach for the semicolon. -/
theorem statements_append {s r : Text} {pieces pieces' : List Text}
    (hs : statements s = .ok pieces) (hcomment : ¬ EndsInLineComment s)
    (hoperator : ¬ EndsInOpenOperator s) (hr : statements r = .ok pieces') :
    statements (s ++ ';' :: r) = .ok (pieces ++ pieces') := by
  obtain ⟨xs, hxs, rfl⟩ := statements_eq_ok.mp hs
  obtain ⟨ys, hys, rfl⟩ := statements_eq_ok.mp hr
  have hlast := (not_waits_semicolon hxs).mpr ⟨hcomment, hoperator⟩
  have hall := lexemes_append_of (by decide) hxs hlast (lexemes_semicolon.mpr ⟨ys, rfl, hys⟩)
  refine statements_eq_ok.mpr ⟨_, hall, ?_⟩
  unfold cutAtSemicolons
  rw [List.splitOnP_append_cons xs ys (by simp), List.map_append]

theorem join_cutAtSemicolons {xs : List Lexeme}
    (h : ∀ l ∈ xs, l.token = .semicolon → l.text = [';']) :
    Text.join [';'] ((cutAtSemicolons xs).map textOf) = textOf xs := by
  induction xs with
  | nil => simp [cutAtSemicolons]
  | cons l xs ih =>
    have hxs := ih fun k hk => h k (List.mem_cons_of_mem l hk)
    have hne : cutAtSemicolons xs ≠ [] := by
      simp [cutAtSemicolons]
    obtain ⟨ys, zs, hcut⟩ := List.exists_cons_of_ne_nil hne
    rw [cutAtSemicolons_cons, textOf_cons, ← hxs, hcut]
    split
    · next hl =>
      simp [h l List.mem_cons_self hl]
    · cases zs <;> simp

/-- Joining the statements of a schema gives back the schema. -/
theorem join_statements {t : Text} {pieces : List Text} (h : statements t = .ok pieces) :
    Text.join [';'] pieces = t := by
  obtain ⟨xs, hxs, rfl⟩ := statements_eq_ok.mp h
  rw [join_cutAtSemicolons (text_of_semicolon hxs)]
  exact flatten_lexemes hxs

theorem statements_ne_nil {t : Text} {pieces : List Text} (h : statements t = .ok pieces) :
    pieces ≠ [] := by
  obtain ⟨xs, -, rfl⟩ := statements_eq_ok.mp h
  simp [cutAtSemicolons]

/-- Which lists of texts are the statements of the schema that they make up. -/
theorem statements_join {pieces : List Text} (hne : pieces ≠ []) :
    statements (Text.join [';'] pieces) = .ok pieces
      ↔ (∀ s ∈ pieces, statements s = .ok [s])
        ∧ ∀ s ∈ pieces.dropLast, ¬ EndsInLineComment s ∧ ¬ EndsInOpenOperator s := by
  induction pieces with
  | nil => exact absurd rfl hne
  | cons s pieces ih =>
    cases pieces with
    | nil => simp
    | cons s' pieces =>
      have hjoin : Text.join [';'] (s :: s' :: pieces)
          = s ++ ';' :: Text.join [';'] (s' :: pieces) := by
        simp
      rw [hjoin, statements_cons, ih (List.cons_ne_nil s' pieces), List.dropLast_cons_cons]
      simp only [List.forall_mem_cons]
      grind

/-- Some of the statements of a schema are the statements of the schema that they make up. -/
theorem statements_join_of_sublist {t : Text} {pieces kept : List Text}
    (h : statements t = .ok pieces) (hkept : kept.Sublist pieces) (hne : kept ≠ []) :
    statements (Text.join [';'] kept) = .ok kept := by
  obtain ⟨hsingle, hopen⟩ := (statements_join (statements_ne_nil h)).mp (by
    rw [join_statements h, h])
  -- what stands in front of a semicolon is still a part of what stood there
  have hfront : kept.dropLast.Sublist pieces.dropLast := by
    have htail := hkept.reverse.tail
    rwa [List.tail_reverse, List.tail_reverse, List.reverse_sublist] at htail
  apply (statements_join hne).mpr
  constructor
  · intro s hs
    exact hsingle s (hkept.subset hs)
  · intro s hs
    exact hopen s (hfront.subset hs)

/-- Cutting a schema loses nothing and is final, and joining statements with
semicolons is undone by cutting, as long as no statement in front of a semicolon
ends in a line comment or in an operator that takes the next character. -/
theorem statements_lossless_and_final :
    (∀ t pieces, statements t = .ok pieces →
      Text.join [';'] pieces = t
      ∧ (∀ s ∈ pieces, statements s = .ok [s])
      ∧ ∀ ts, tokens t = .ok ts →
          ∀ b ∈ slicesBetween t 0 (ts.filter (·.token = .semicolon)), IsSlice t b.1 b.2)
    ∧ ∀ pieces, pieces ≠ [] → (∀ s ∈ pieces, statements s = .ok [s]) →
      (∀ s ∈ pieces.dropLast, ¬ EndsInLineComment s ∧ ¬ EndsInOpenOperator s) →
      statements (Text.join [';'] pieces) = .ok pieces := by
  constructor
  · intro t pieces h
    have hjoin := join_statements h
    have hall := (statements_join (statements_ne_nil h)).mp (by rw [hjoin, h])
    refine ⟨hjoin, hall.1, ?_⟩
    intro ts hts
    obtain ⟨xs, hxs, -⟩ := statements_eq_ok.mp h
    obtain rfl : place Location.start xs = ts := by
      simpa [tokens, lex_eq_ok.mpr hxs, Except.map] using hts
    have := @isSlice_of_mem_slicesBetween t [] [] xs (flatten_lexemes hxs)
    simpa using this
  · intro pieces hne hstatements hopen
    exact (statements_join hne).mpr ⟨hstatements, hopen⟩

theorem statements_lossless_and_final_quoted :
    (statements "a;'x;y'".toList = .ok ["a".toList, "'x;y'".toList]
      ∧ Text.join [';'] ["a".toList, "'x;y'".toList] = "a;'x;y'".toList
      ∧ statements "'x;y'".toList = .ok ["'x;y'".toList])
    ∧ statements (Text.join [';'] ["/*;*/".toList, "b --".toList])
      = .ok ["/*;*/".toList, "b --".toList] := by
  have h : statements "a;'x;y'".toList = .ok ["a".toList, "'x;y'".toList] := by
    decide +kernel
  obtain ⟨hjoin, hall, -⟩ := statements_lossless_and_final.1 _ _ h
  refine ⟨⟨h, hjoin, hall _ (by simp)⟩, ?_⟩
  exact statements_lossless_and_final.2 _ (by simp) (by decide +kernel) (by decide +kernel)

/-- Line comments are not the only tokens that reach for a semicolon. -/
theorem question_mark_takes_semicolon :
    ¬ ∀ pieces, pieces ≠ [] → (∀ s ∈ pieces, statements s = .ok [s]) →
      (∀ s ∈ pieces.dropLast, ¬ EndsInLineComment s) →
      statements (Text.join [';'] pieces) = .ok pieces := by
  intro h
  have := h [['?'], []] (by simp) (by decide +kernel) (by decide +kernel)
  revert this
  decide +kernel

end TableScaffold.Sql
