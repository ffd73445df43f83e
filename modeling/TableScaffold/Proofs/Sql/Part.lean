import Mathlib.Data.List.TakeWhile
import TableScaffold.Proofs.Sql.Append
import TableScaffold.Proofs.Text.Letter

set_option autoImplicit false

/-!
# Parts that a text is written from

A part is a text with its lexemes that is read alike in front of every
delimiter, so parts that begin with a delimiter can be put behind each other
(`Reads.append`).  Words, quoted names and qualified names are parts.
-/

namespace TableScaffold.Sql

open Text (eqIgnoringCase)

/-- A text reads as the given lexemes, and does so in front of a delimiter. -/
structure Reads (t : Text) (xs : List Lexeme) : Prop where
  lexed : lexemes false t = .ok xs
  settled : ∀ d ∈ delimiters, ∀ l ∈ xs.getLast?, ¬ Waits d l.text

/-- A text that is empty or begins with a delimiter. -/
def BeginsDelimited (t : Text) : Prop := ∀ d ∈ t.head?, d ∈ delimiters

theorem beginsDelimited_cons {d : Char} (hd : d ∈ delimiters) (t : Text) :
    BeginsDelimited (d :: t) := by
  intro e he
  obtain rfl : d = e := by simpa using he
  exact hd

theorem BeginsDelimited.append {x y : Text} (hx : BeginsDelimited x) (hy : BeginsDelimited y) :
    BeginsDelimited (x ++ y) := by
  cases x with
  | nil => exact hy
  | cons c x => exact hx

namespace Reads

variable {x y : Text} {xs ys : List Lexeme}

theorem textOf_eq (h : Reads x xs) : textOf xs = x := flatten_lexemes h.lexed

theorem nil : Reads [] [] where
  lexed := by rw [lexemes]
  settled := by simp

theorem append (hx : Reads x xs) (hy : Reads y ys) (h : BeginsDelimited y) :
    Reads (x ++ y) (xs ++ ys) := by
  cases y with
  | nil =>
    obtain rfl : [] = ys := by simpa [lexemes] using hy.lexed
    rw [List.append_nil, List.append_nil]
    exact hx
  | cons d r =>
    have hd : d ∈ delimiters := h d rfl
    refine ⟨lexemes_append_of hd hx.lexed (hx.settled d hd) hy.lexed, ?_⟩
    cases ys with
    | nil =>
      have := hy.textOf_eq
      simp at this
    | cons l ys => simpa using hy.settled

/-- A delimiter that is a token by itself, in front of a text. -/
theorem cons {d : Char} {token : Token} (hread : ∀ r, readToken false d r = .ok (token, 0))
    (htoken : token.isWord = false) (hd : d ∉ ['-', '?', '&', '\r']) (hy : Reads y ys) :
    Reads (d :: y) (⟨token, [d]⟩ :: ys) where
  lexed := by
    rw [lexemes, hread]
    simp [htoken, hy.lexed]
  settled := by
    cases ys with
    | nil =>
      intro e _ l hl
      obtain rfl : (⟨token, [d]⟩ : Lexeme) = l := by simpa using hl
      exact mt mem_of_waits hd
    | cons l ys => simpa using hy.settled

end Reads

/-- A lexeme that is no blank does not wait, unless it is an open operator. -/
theorem not_waits_of_token {afterWord : Bool} {t : Text} {xs : List Lexeme}
    (h : lexemes afterWord t = .ok xs) :
    ∀ l ∈ xs, l.token ≠ .blank → ¬ IsOpenOperator l.text → ∀ d, ¬ Waits d l.text := by
  induction xs generalizing afterWord t with
  | nil => simp
  | cons k xs ih =>
    obtain ⟨c, r, n, -, hread, htext, hrest⟩ := lexemes_cons_iff.mp h
    intro l hl htoken hopen d
    rcases List.mem_cons.mp hl with rfl | hl
    · rintro (hcomment | hoperator | ⟨hreturn, -⟩)
      · rw [htext] at hcomment
        obtain ⟨⟨s, hs⟩, -⟩ := hcomment
        obtain ⟨rfl, hdash⟩ := List.cons.inj hs
        have hdash : ['-'] <+: r.take n := ⟨s, hdash⟩
        obtain ⟨y, rfl⟩ := hdash.trans (List.take_prefix n r)
        rw [List.singleton_append, readToken] at hread
        simp only [Except.ok.injEq, Prod.mk.injEq] at hread
        exact htoken hread.1.symm
      · exact hopen hoperator
      · rw [htext] at hreturn
        obtain ⟨rfl, -⟩ := List.cons.inj hreturn
        unfold readToken at hread
        split at hread <;> simp_all
    · exact ih hrest l hl htoken hopen d

/-- A text that ends with a token that is neither blank nor an open operator. -/
theorem Reads.of_last {t : Text} {xs : List Lexeme} (h : lexemes false t = .ok xs)
    (hlast : ∀ l ∈ xs.getLast?, l.token ≠ .blank ∧ ¬ IsOpenOperator l.text) : Reads t xs where
  lexed := h
  settled := by
    intro d _ l hl
    have := hlast l hl
    exact not_waits_of_token h l (List.mem_of_getLast? hl) this.1 this.2 d

/-! ## Words -/

/-- A word without quotes: a keyword, or a name that is written bare. -/
structure IsBareWord (t : Text) : Prop where
  start : ∀ c ∈ t.head?, isNameStart c
  more : ∀ c ∈ t, isNamePart c
  ne_nil : t ≠ []

/-- Marks that no unquoted word holds. -/
theorem isNamePart_not_mem {c : Char} (h : isNamePart c) :
    c ∉ ['\'', '"', '&', '\n', '\r'] := by
  intro hc
  have hno : ∀ c ∈ ['\'', '"', '&', '\n', '\r'], isNamePart c = false := by decide
  simp [hno c hc] at h

/-- Marks that no unquoted word begins with. -/
theorem isNameStart_not_mem {c : Char} (h : isNameStart c) :
    c ∉ marks ++ ['-', '/', '.', '?', '&'] := by
  intro hc
  have hno : ∀ c ∈ marks ++ ['-', '/', '.', '?', '&'], isNameStart c = false := by decide
  simp [hno c hc] at h

theorem isNameStart_not_isDigit {c : Char} (h : isNameStart c) : c.isDigit = false := by
  rw [isNameStart, Bool.or_eq_true, Bool.or_eq_true, decide_eq_true_iff, decide_eq_true_iff] at h
  rcases h with (halpha | rfl) | hbeyond
  · exact Text.not_isDigit_of_isAlpha halpha
  · decide
  · rw [Bool.eq_false_iff]
    intro hdigit
    have hrange : 48 ≤ c.toNat ∧ c.toNat ≤ 57 := Char.isDigit_iff_toNat.mp hdigit
    omega

theorem readWord_eq_readName {c : Char} {r : Text}
    (h : ∀ e ∈ r.head?, e ≠ '\'' ∧ e ≠ '"' ∧ e ≠ '&') : readWord c r = readName c r := by
  cases r with
  | nil => unfold readWord; split <;> simp_all
  | cons e r => unfold readWord; split <;> simp_all

theorem Reads.word {w : Text} (h : IsBareWord w) : Reads w [⟨.word w false, w⟩] := by
  cases w with
  | nil => exact absurd rfl h.ne_nil
  | cons c r =>
    have hc : isNameStart c := h.start c rfl
    have hr : ∀ e ∈ r, isNamePart e := fun e he => h.more e (List.mem_cons_of_mem c he)
    obtain ⟨hmarks, hother⟩ := not_or.mp (mt List.mem_append.mpr (isNameStart_not_mem hc))
    have hne : ∀ e ∈ ['-', '/', '.', '?', '&'], c ≠ e := fun e he heq => hother (heq ▸ he)
    have hdash : c ≠ '-' := hne _ (by decide)
    have hslash : c ≠ '/' := hne _ (by decide)
    have hpoint : c ≠ '.' := hne _ (by decide)
    have hdigit := isNameStart_not_isDigit hc
    have htake : r.takeWhile isNamePart = r := List.takeWhile_eq_self_iff.mpr hr
    have hread : readToken false c r = .ok (.word (c :: r) false, r.length) := by
      rw [readToken_other hmarks (absurd · hdash) (absurd · hslash), readWord_eq_readName, readName,
        htake]
      · simp [hdigit, hpoint, hc]
      · intro e he
        have := isNamePart_not_mem (hr e (List.mem_of_mem_head? he))
        simp_all
    refine Reads.of_last (lexemes_cons_iff.mpr ⟨c, r, r.length, rfl, hread, ?_, ?_⟩) ?_
    · simp
    · simp [lexemes]
    · intro l hl
      obtain rfl : (⟨.word (c :: r) false, c :: r⟩ : Lexeme) = l := by simpa using hl
      refine ⟨by simp, fun hopen => ?_⟩
      exact hother (List.mem_append_right ['-', '/', '.'] (mem_of_isOpenOperator hopen))

/-- The text of a name between double quotes: quotes in it are doubled. -/
def doubleQuotes (name : Text) : Text := name.flatMap fun c => if c = '"' then ['"', '"'] else [c]

/-- A name between double quotes. -/
def quote (name : Text) : Text := '"' :: doubleQuotes name ++ ['"']

theorem getLast?_quote (name : Text) : (quote name).getLast? = some '"' :=
  List.getLast?_concat

theorem quotedValue_doubleQuotes (name : Text) {r : Text} (hr : r.head? ≠ some '"') :
    quotedValue '"' (doubleQuotes name ++ '"' :: r)
      = some (name, (doubleQuotes name).length + 1) := by
  induction name with
  | nil => cases r <;> simp_all [doubleQuotes, quotedValue]
  | cons c name ih =>
    by_cases hc : c = '"'
    · subst hc
      have hcons : doubleQuotes ('"' :: name) = '"' :: '"' :: doubleQuotes name := by
        simp [doubleQuotes]
      rw [hcons, List.cons_append, List.cons_append, quotedValue, ih]
      simp
    · have hcons : doubleQuotes (c :: name) = c :: doubleQuotes name := by
        simp [doubleQuotes, hc]
      rw [hcons, List.cons_append]
      cases hrest : doubleQuotes name ++ '"' :: r with
      | nil => simp at hrest
      | cons d rest =>
        rw [quotedValue, if_neg hc, ← hrest, ih]
        simp

/-- A quoted name is read up to its closing quote, whatever follows but a further
quote. -/
theorem lexemes_quote (afterWord : Bool) (name : Text) {r : Text} (hr : r.head? ≠ some '"')
    {xs : List Lexeme} :
    lexemes afterWord (quote name ++ r) = .ok (⟨.word name true, quote name⟩ :: xs)
      ↔ lexemes true r = .ok xs := by
  have hread : readToken afterWord '"' (doubleQuotes name ++ '"' :: r)
      = .ok (.word name true, (doubleQuotes name).length + 1) := by
    simp only [readToken, quotedValue_doubleQuotes name hr]
  have htext : quote name ++ r = '"' :: (doubleQuotes name ++ '"' :: r) := by
    simp [quote]
  have hlen : (doubleQuotes name).length + 1 = (doubleQuotes name ++ ['"']).length := by
    simp
  rw [hlen, List.append_cons] at hread
  rw [htext, List.append_cons, lexemes_cons_iff]
  constructor
  · rintro ⟨c, s, n, heq, hread', -, hrest⟩
    obtain ⟨rfl, rfl⟩ := List.cons.inj heq
    rw [hread] at hread'
    simp only [Except.ok.injEq, Prod.mk.injEq, true_and] at hread'
    rw [← hread'] at hrest
    rwa [List.drop_left] at hrest
  · intro hrest
    refine ⟨'"', _, _, rfl, hread, ?_, ?_⟩
    · rw [List.take_left]
      rfl
    · rwa [List.drop_left]

theorem Reads.quote (name : Text) : Reads (quote name) [⟨.word name true, Sql.quote name⟩] := by
  have h := (@lexemes_quote false name [] (by simp) []).mpr (by rw [lexemes])
  rw [List.append_nil] at h
  refine Reads.of_last h ?_
  intro l hl
  obtain rfl : (⟨.word name true, Sql.quote name⟩ : Lexeme) = l := by simpa using hl
  refine ⟨by simp, ?_⟩
  rintro (h | h) <;> simp [Sql.quote] at h

/-- A name with the quoted names of what it lies in before it. -/
def qualify (qualifiers : List Text) (name : Text) : Text :=
  (qualifiers.flatMap fun q => quote q ++ ['.']) ++ quote name

/-- The lexemes of a qualified name. -/
def qualifyLexemes (qualifiers : List Text) (name : Text) : List Lexeme :=
  (qualifiers.flatMap fun q => [⟨.word q true, quote q⟩, ⟨.period, ['.']⟩])
    ++ [⟨.word name true, quote name⟩]

theorem lexemes_qualify (afterWord : Bool) (qualifiers : List Text) (name : Text) :
    lexemes afterWord (qualify qualifiers name) = .ok (qualifyLexemes qualifiers name) := by
  induction qualifiers generalizing afterWord with
  | nil =>
    have := (@lexemes_quote afterWord name [] (by simp) []).mpr (by rw [lexemes])
    simpa [qualify, qualifyLexemes] using this
  | cons q qualifiers ih =>
    have hcons : qualify (q :: qualifiers) name = quote q ++ '.' :: qualify qualifiers name := by
      simp [qualify]
    have hlexemes : qualifyLexemes (q :: qualifiers) name
        = ⟨.word q true, quote q⟩ :: ⟨.period, ['.']⟩ :: qualifyLexemes qualifiers name := by
      simp [qualifyLexemes]
    rw [hcons, hlexemes, lexemes_quote afterWord q (by simp)]
    obtain ⟨r, hr⟩ : ∃ r, qualify qualifiers name = '"' :: r := by
      cases qualifiers with
      | nil => exact ⟨_, rfl⟩
      | cons q' qualifiers => exact ⟨_, rfl⟩
    have hread : readToken true '.' (qualify qualifiers name) = .ok (.period, 0) := by
      rw [hr]
      rfl
    rw [lexemes, hread]
    simp [ih, Token.isWord]

theorem Reads.qualify (qualifiers : List Text) (name : Text) :
    Reads (qualify qualifiers name) (qualifyLexemes qualifiers name) := by
  refine Reads.of_last (lexemes_qualify false qualifiers name) ?_
  intro l hl
  obtain rfl : (⟨.word name true, Sql.quote name⟩ : Lexeme) = l := by
    simpa [qualifyLexemes] using hl
  refine ⟨by simp, ?_⟩
  rintro (h | h) <;> simp [Sql.quote] at h

/-! ## Keywords -/

/-- A keyword in any letter case is a word. -/
theorem isBareWord_of_eqIgnoringCase {t keyword : Text} (h : eqIgnoringCase t keyword)
    (hne : keyword ≠ []) (hkeyword : ∀ c ∈ keyword, c.isAlpha) : IsBareWord t := by
  have hmap : t.map Char.toLower = keyword.map Char.toLower := by simpa [eqIgnoringCase] using h
  have halpha : ∀ c ∈ t, c.isAlpha := by
    intro c hc
    have hlower : c.toLower ∈ keyword.map Char.toLower := hmap ▸ List.mem_map_of_mem hc
    obtain ⟨k, hk, heq⟩ := List.mem_map.mp hlower
    rw [← Text.isLower_toLower, ← heq, Text.isLower_toLower]
    exact hkeyword k hk
  refine ⟨fun c hc => ?_, fun c hc => ?_, fun hnil => ?_⟩
  · simp [isNameStart, halpha c (List.mem_of_mem_head? hc)]
  · simp [isNamePart, isNameStart, halpha c hc]
  · rw [hnil, List.map_nil] at hmap
    exact hne (List.map_eq_nil_iff.mp hmap.symm)

/-! ## Parts of a row -/

/-- A part that stays on its row and that no carriage return ends. -/
structure RowPart (t : Text) (xs : List Lexeme) : Prop extends Reads t xs where
  not_newline : '\n' ∉ t
  not_return : t.getLast? ≠ some '\r'

namespace RowPart

variable {x y : Text} {xs ys : List Lexeme}

theorem nil : RowPart [] [] where
  toReads := Reads.nil
  not_newline := by simp
  not_return := by simp

theorem append (hx : RowPart x xs) (hy : RowPart y ys) (h : BeginsDelimited y) :
    RowPart (x ++ y) (xs ++ ys) where
  toReads := hx.toReads.append hy.toReads h
  not_newline := by simp [hx.not_newline, hy.not_newline]
  not_return := by
    rw [List.getLast?_append]
    cases hlast : y.getLast? with
    | none => simpa using hx.not_return
    | some c =>
      have := hy.not_return
      simpa [hlast] using this

theorem cons {d : Char} {token : Token} (hread : ∀ r, readToken false d r = .ok (token, 0))
    (htoken : token.isWord = false) (hd : d ∉ ['-', '?', '&', '\r', '\n']) (hy : RowPart y ys) :
    RowPart (d :: y) (⟨token, [d]⟩ :: ys) where
  toReads := hy.toReads.cons hread htoken (by simp_all)
  not_newline := by
    simp only [List.mem_cons, hy.not_newline, or_false]
    rintro rfl
    simp at hd
  not_return := by
    have := hy.not_return
    rw [List.getLast?_cons]
    cases hlast : y.getLast? <;> simp_all

theorem space (hy : RowPart y ys) : RowPart (' ' :: y) (⟨.blank, [' ']⟩ :: ys) :=
  hy.cons (fun _ => rfl) rfl (by decide)

theorem leftParen (hy : RowPart y ys) : RowPart ('(' :: y) (⟨.leftParen, ['(']⟩ :: ys) :=
  hy.cons (fun _ => rfl) rfl (by decide)

theorem rightParen (hy : RowPart y ys) : RowPart (')' :: y) (⟨.rightParen, [')']⟩ :: ys) :=
  hy.cons (fun _ => rfl) rfl (by decide)

theorem comma (hy : RowPart y ys) : RowPart (',' :: y) (⟨.comma, [',']⟩ :: ys) :=
  hy.cons (fun _ => rfl) rfl (by decide)

theorem word {w : Text} (h : IsBareWord w) : RowPart w [⟨.word w false, w⟩] where
  toReads := Reads.word h
  not_newline hmem := absurd (h.more _ hmem) (by decide)
  not_return hlast := absurd (h.more _ (List.mem_of_getLast? hlast)) (by decide)

theorem quote {name : Text} (h : '\n' ∉ name) :
    RowPart (quote name) [⟨.word name true, Sql.quote name⟩] where
  toReads := Reads.quote name
  not_newline := by
    have : '\n' ∉ doubleQuotes name := by
      simp only [doubleQuotes, List.mem_flatMap, not_exists, not_and]
      intro c hc
      split
      · simp
      · simpa using fun heq : '\n' = c => h (heq ▸ hc)
    simpa [Sql.quote] using this
  not_return := by simp [getLast?_quote]

theorem qualify {qualifiers : List Text} {name : Text} (hqualifiers : ∀ q ∈ qualifiers, '\n' ∉ q)
    (hname : '\n' ∉ name) :
    RowPart (qualify qualifiers name) (qualifyLexemes qualifiers name) where
  toReads := Reads.qualify qualifiers name
  not_newline := by
    have hquote := (quote hname).not_newline
    have hquotes : ∀ q ∈ qualifiers, '\n' ∉ Sql.quote q :=
      fun q hq => (quote (hqualifiers q hq)).not_newline
    simp only [Sql.qualify, List.mem_append, List.mem_flatMap]
    simp
    grind
  not_return := by simp [Sql.qualify, getLast?_quote]

end RowPart

end TableScaffold.Sql
