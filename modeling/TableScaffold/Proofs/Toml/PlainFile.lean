import Mathlib.Data.List.DropRight
import TableScaffold.Proofs.Toml.Entries

set_option autoImplicit false

/-!
# Plain files

A plain file has lines of three forms: a line that is empty, a remark, and a key without quotes
with a text or a truth value behind an equals sign.  A text stands between quotes and needs no
escapes.  The tokens of such a line do not depend on what follows it (`lexFrom_written`), and it
puts one entry behind those before it, or none.  So the entries of a plain file are those that it
has line by line (`PlainFile.exists_parse`), and its settings have for every field what is written
behind the key of the field (`PlainFile.exists_settings`).
-/

namespace TableScaffold

namespace FieldValue

open Toml

/-! ## Values -/

/-- A value as it is written in a file. -/
def written : FieldValue → Text
  | text t => '"' :: (t ++ ['"'])
  | boolean b => if b then "true".toList else "false".toList

/-- Whether a value can be written without escapes. -/
def IsPlain : FieldValue → Prop
  | text t => ∀ c ∈ t, isStringCharacter c = true ∧ c ≠ '"' ∧ c ≠ '\\'
  | boolean _ => True

instance : ∀ v : FieldValue, Decidable v.IsPlain
  | text t => inferInstanceAs (Decidable (∀ c ∈ t, _))
  | boolean _ => inferInstanceAs (Decidable True)

/-- The kind of the token that a value is. -/
def tokenKind : FieldValue → TokenKind
  | text _ => .basic
  | boolean _ => .bare

/-- The value in a file. -/
def inFile : FieldValue → Value
  | text t => .text t
  | boolean b => .boolean b

/-- The value in settings. -/
def inSettings : FieldValue → SettingScalar
  | text t => .text t
  | boolean b => .boolean b

theorem scalar?_inFile (v : FieldValue) : v.inFile.scalar? = some v.inSettings := by
  cases v <;> rfl

end FieldValue

namespace Toml

variable {start : Nat} {rest t : Text}

theorem basicLength_eq (h : ∀ c ∈ t, c ≠ '"' ∧ c ≠ '\\' ∧ c ≠ '\n') :
    basicLength (t ++ '"' :: rest) = t.length + 1 := by
  induction t with
  | nil => rw [List.nil_append, basicLength] <;> simp
  | cons c t ih =>
    rw [List.forall_mem_cons] at h
    obtain ⟨⟨hquote, hslash, hline⟩, ht⟩ := h
    rw [List.cons_append, basicLength, if_neg hquote, if_neg hline, ih ht, List.length_cons]
    all_goals
      rintro _ heq
      exact absurd heq hslash

/-- A text without escapes stands for itself. -/
theorem unescape_eq_ok (h : ∀ c ∈ t, isStringCharacter c = true ∧ c ≠ '\\') (start : Nat) :
    unescape false start t = .ok t := by
  induction t generalizing start with
  | nil => rw [unescape]
  | cons c t ih =>
    rw [List.forall_mem_cons] at h
    obtain ⟨⟨hcharacter, hslash⟩, ht⟩ := h
    rw [unescape, checkPlain, hcharacter, Bool.true_or, if_pos rfl]
    · dsimp only
      rw [ih ht]
      rfl
    · rintro heq
      exact absurd heq hslash
    · rintro _ _ heq
      exact absurd heq hslash

/-- A value as it is written is read as that value. -/
theorem scalarValue_written {v : FieldValue} (h : v.IsPlain) (start : Nat) :
    scalarValue ⟨v.tokenKind, start, v.written⟩ = .ok v.inFile := by
  cases v with
  | boolean b => cases b <;> rfl
  | text t =>
    have hbetween : between? ['"'] ('"' :: (t ++ ['"'])) = some t := by
      have hopening : Text.dropPrefix? ['"'] ('"' :: (t ++ ['"'])) = some (t ++ ['"']) := rfl
      rw [between?, hopening]
      exact List.isSuffixOf?_eq_some_iff_append_eq.mpr rfl
    have hread := unescape_eq_ok (fun c hc => ⟨(h c hc).1, (h c hc).2.2⟩) (start + 1)
    simp only [scalarValue, FieldValue.tokenKind, FieldValue.written, stringText, hbetween, hread]
    rfl

/-! ## Tokens -/

/-- Whether a text is a token of this kind where another text follows it. -/
def IsToken (kind : TokenKind) (text rest : Text) : Prop :=
  ∃ c r, text = c :: r ∧ tokenAt c (r ++ rest) = (kind, r.length)

theorem lexFrom_of_isToken {kind : TokenKind} {text : Text} (h : IsToken kind text rest)
    (start : Nat) : lexFrom start (text ++ rest)
      = ⟨kind, start, text⟩ :: lexFrom (start + text.length) rest := by
  obtain ⟨c, r, rfl, htoken⟩ := h
  rw [List.cons_append, lexFrom, htoken]
  dsimp only
  rw [List.take_left' rfl, List.drop_left' rfl, List.length_cons, Nat.add_assoc,
    Nat.add_comm 1 r.length]

/-- Tokens one behind the other. -/
def placed (start : Nat) : List (TokenKind × Text) → List Token
  | [] => []
  | (kind, text) :: more => ⟨kind, start, text⟩ :: placed (start + text.length) more

theorem length_placed (start : Nat) (parts : List (TokenKind × Text)) :
    (placed start parts).length = parts.length := by
  induction parts generalizing start with
  | nil => rfl
  | cons part parts ih => exact congrArg (· + 1) (ih _)

theorem runLength_append {p : Char → Bool} {c : Char} (h : ∀ d ∈ t, p d = true)
    (hc : p c = false) : runLength p (t ++ c :: rest) = t.length := by
  rw [runLength, List.takeWhile_append_of_pos h, List.takeWhile_cons_of_neg (by simp [hc]),
    List.append_nil]

/-- A character of a key begins a bare run and does not end one. -/
theorem tokenAt_of_isKeyCharacter {c : Char} (h : isKeyCharacter c = true) (r : Text) :
    endsBare c = false ∧ tokenAt c r = (.bare, runLength (!endsBare ·) r) := by
  have hmark {d : Char} (hd : isKeyCharacter d = false) : c ≠ d := by
    rintro rfl
    exact Bool.false_ne_true (hd.symm.trans h)
  constructor
  · rw [endsBare, List.contains_eq_mem, decide_eq_false_iff_not]
    simp only [List.mem_cons, List.not_mem_nil, or_false, not_or]
    refine ⟨?_, ?_, ?_, ?_, ?_, ?_, ?_, ?_, ?_, ?_, ?_, ?_⟩ <;> exact hmark (by decide)
  · have hblank : isTomlBlank c = false := by
      simp [isTomlBlank, hmark (d := ' ') (by decide), hmark (d := '\t') (by decide)]
    unfold tokenAt
    split
    case h_13 => rw [if_neg (ne_true_of_eq_false hblank)]
    all_goals exact absurd rfl (hmark (by decide))

variable {key : Text}

theorem isToken_key (hne : key ≠ []) (h : ∀ c ∈ key, isKeyCharacter c = true) :
    IsToken .bare key (' ' :: rest) := by
  obtain ⟨c, r, rfl⟩ := List.exists_cons_of_ne_nil hne
  rw [List.forall_mem_cons] at h
  refine ⟨c, r, rfl, ?_⟩
  rw [(tokenAt_of_isKeyCharacter h.1 _).2, runLength_append _ rfl]
  intro d hd
  rw [(tokenAt_of_isKeyCharacter (h.2 d hd) []).1]
  rfl

theorem isToken_remark (h : ∀ c ∈ t, isCommentCharacter c = true) :
    IsToken .comment ('#' :: t) ('\n' :: rest) := by
  refine ⟨'#', t, rfl, ?_⟩
  have hrun : ∀ c ∈ t, (decide (c ≠ '\r') && decide (c ≠ '\n')) = true := by
    intro c hc
    have hcharacter := h c hc
    rw [Bool.and_eq_true, decide_eq_true_eq, decide_eq_true_eq]
    constructor
    all_goals
      rintro rfl
      exact absurd hcharacter (by decide)
  exact congrArg _ (runLength_append hrun rfl)

theorem isToken_blank {c : Char} (h : isTomlBlank c = false) :
    IsToken .blank [' '] (c :: rest) := by
  have hrun : runLength isTomlBlank (c :: rest) = 0 := by
    rw [runLength, List.takeWhile_cons_of_neg (ne_true_of_eq_false h)]
    rfl
  exact ⟨' ', [], rfl, congrArg (TokenKind.blank, ·) hrun⟩

/-- Behind a quote, a text that does not begin with two more is on one line. -/
theorem tokenAt_quote (h : ∀ s, t ≠ '"' :: '"' :: s) : tokenAt '"' t = (.basic, basicLength t) := by
  rcases t with _ | ⟨c, _ | ⟨d, t⟩⟩
  · rfl
  all_goals
    unfold tokenAt
    split <;> simp_all

theorem isToken_value {v : FieldValue} (h : v.IsPlain) :
    IsToken v.tokenKind v.written ('\n' :: rest) := by
  cases v with
  | boolean b =>
    cases b with
    | false => exact ⟨'f', "alse".toList, rfl, rfl⟩
    | true => exact ⟨'t', "rue".toList, rfl, rfl⟩
  | text t =>
    refine ⟨'"', t ++ ['"'], rfl, ?_⟩
    have hlength : basicLength (t ++ '"' :: '\n' :: rest) = (t ++ ['"']).length := by
      rw [basicLength_eq, List.length_append]
      · rfl
      · intro c hc
        refine ⟨(h c hc).2.1, (h c hc).2.2, ?_⟩
        rintro rfl
        exact absurd (h _ hc).1 (by decide)
    have hopening : ∀ s, t ++ '"' :: '\n' :: rest ≠ '"' :: '"' :: s := by
      rcases t with _ | ⟨c, t⟩
      · simp
      · intro s heq
        exact (h c (.head _)).2.1 (List.cons.inj heq).1
    rw [List.append_assoc, List.singleton_append, tokenAt_quote hopening, hlength]
    rfl

end Toml

/-! ## Lines -/

/-- A line of a plain file. -/
inductive PlainLine where
  | blank
  | remark (t : Text)
  | pair (key : Text) (value : FieldValue)
  deriving DecidableEq, Repr

namespace PlainLine

open Toml

/-- A line as it is written. -/
def written : PlainLine → Text
  | blank => ['\n']
  | remark t => '#' :: t ++ ['\n']
  | pair key v => key ++ " = ".toList ++ v.written ++ ['\n']

/-- Whether what is in a line can be written in it. -/
def IsPlain : PlainLine → Prop
  | blank => True
  | remark t => ∀ c ∈ t, isCommentCharacter c = true
  | pair key v => key ≠ [] ∧ (∀ c ∈ key, isKeyCharacter c = true) ∧ v.IsPlain

instance : ∀ l : PlainLine, Decidable l.IsPlain
  | blank => inferInstanceAs (Decidable True)
  | remark t => inferInstanceAs (Decidable (∀ c ∈ t, _))
  | pair key v => inferInstanceAs (Decidable (key ≠ [] ∧ (∀ c ∈ key, _) ∧ v.IsPlain))

/-- The key of a line and its value, if it has them. -/
def pair? : PlainLine → Option (Text × FieldValue)
  | pair key v => some (key, v)
  | _ => none

/-- What the tokens of a line are. -/
def parts : PlainLine → List (TokenKind × Text)
  | blank => [(.newline, ['\n'])]
  | remark t => [(.comment, '#' :: t), (.newline, ['\n'])]
  | pair key v => [(.bare, key), (.blank, [' ']), (.equals, ['=']), (.blank, [' ']),
      (v.tokenKind, v.written), (.newline, ['\n'])]

variable {line : PlainLine}

/-- The tokens of a line, whatever stands behind it. -/
theorem lexFrom_written (h : line.IsPlain) (start : Nat) (rest : Text) :
    lexFrom start (line.written ++ rest)
      = placed start line.parts ++ lexFrom (start + line.written.length) rest := by
  have hnewline (n : Nat) :
      lexFrom n ('\n' :: rest) = ⟨.newline, n, ['\n']⟩ :: lexFrom (n + 1) rest :=
    lexFrom_of_isToken ⟨'\n', [], rfl, rfl⟩ n
  cases line with
  | blank => exact hnewline start
  | remark t =>
    rw [written, List.append_assoc, List.singleton_append, lexFrom_of_isToken (isToken_remark h),
      hnewline, List.length_append, ← Nat.add_assoc]
    rfl
  | pair key v =>
    obtain ⟨hne, hkey, hvalue⟩ := h
    have hblank (n : Nat) : lexFrom n (' ' :: (v.written ++ '\n' :: rest))
        = ⟨.blank, n, [' ']⟩ :: lexFrom (n + 1) (v.written ++ '\n' :: rest) := by
      have hfirst : IsToken .blank [' '] (v.written ++ '\n' :: rest) := by
        rcases v with t | b
        · exact isToken_blank (by decide)
        · cases b <;> exact isToken_blank (by decide)
      exact lexFrom_of_isToken hfirst n
    have hequals (n : Nat) (r : Text) : lexFrom n (' ' :: '=' :: r)
        = ⟨.blank, n, [' ']⟩ :: ⟨.equals, n + 1, ['=']⟩ :: lexFrom (n + 2) r := by
      have hfirst : IsToken .blank [' '] ('=' :: r) := isToken_blank (by decide)
      have hsecond : IsToken .equals ['='] r := ⟨'=', [], rfl, rfl⟩
      exact (lexFrom_of_isToken hfirst n).trans
        (congrArg _ (lexFrom_of_isToken hsecond (n + 1)))
    have htext : written (pair key v) ++ rest
        = key ++ ' ' :: '=' :: ' ' :: (v.written ++ '\n' :: rest) := by
      simp [written]
    have hlength : start + (written (pair key v)).length
        = start + key.length + 2 + 1 + v.written.length + 1 := by
      simp [written]
      omega
    rw [htext, lexFrom_of_isToken (isToken_key hne hkey), hequals, hblank,
      lexFrom_of_isToken (isToken_value hvalue), hnewline, hlength]
    rfl

/-! ## The lines of a file -/

/-- The tokens of lines. -/
def tokensAt (start : Nat) : List PlainLine → List Token
  | [] => []
  | line :: lines => placed start line.parts ++ tokensAt (start + line.written.length) lines

/-- The keys and values of lines, with where their lines begin. -/
def pairsAt (start : Nat) : List PlainLine → List (Nat × Text × FieldValue)
  | [] => []
  | line :: lines =>
    (line.pair?.map (start, ·)).toList ++ pairsAt (start + line.written.length) lines

variable {lines : List PlainLine}

theorem lexFrom_lines (h : ∀ l ∈ lines, l.IsPlain) (start : Nat) :
    lexFrom start (lines.flatMap written) = tokensAt start lines := by
  induction lines generalizing start with
  | nil =>
    rw [List.flatMap_nil, lexFrom]
    rfl
  | cons line lines ih =>
    rw [List.forall_mem_cons] at h
    rw [List.flatMap_cons, lexFrom_written h.1, ih h.2]
    rfl

/-- Keys and values stand in the order of their lines. -/
theorem map_pairsAt (start : Nat) (lines : List PlainLine) :
    (pairsAt start lines).map (·.2) = lines.filterMap pair? := by
  induction lines generalizing start with
  | nil => rfl
  | cons line lines ih =>
    rw [pairsAt, List.map_append, ih, List.filterMap_cons]
    cases line.pair? <;> rfl

/-- A key and a value as the line that they make. -/
def lineOf (p : Nat × Text × FieldValue) : Line :=
  .pair [⟨.bare, p.1, p.2.1⟩]
    (.scalar ⟨p.2.2.tokenKind, p.1 + p.2.1.length + 3, p.2.2.written⟩)

/-- A key and a value as the entry that they make. -/
def entryOf (p : Nat × Text × FieldValue) : Text × Nat × Value :=
  (p.2.1, p.1 + p.2.1.length + 3, p.2.2.inFile)

theorem line_pair (x : Extent) (start : Nat) (key : Text) (v : FieldValue) (rest : List Token) :
    Toml.line x ⟨.bare, start, key⟩
      (placed (start + key.length) (parts (pair key v)).tail ++ rest)
      = .ok (lineOf (start, key, v), rest) := by
  cases v with
  | text t => rfl
  | boolean b => cases rest <;> cases b <;> rfl

theorem linesOf_layout {t : Token} (hlayout : t.isLayout = true) (hfault : layoutFault? t = none)
    (x : Extent) (fuel : Nat) (rest : List Token) :
    linesOf x (fuel + 1) (t :: rest) = linesOf x fuel rest := by
  rw [linesOf, if_pos hlayout, checkLayout, hfault]
  rfl

theorem linesOf_newline (x : Extent) (fuel n : Nat) (rest : List Token) :
    linesOf x (fuel + 1) (⟨.newline, n, ['\n']⟩ :: rest) = linesOf x fuel rest :=
  linesOf_layout rfl rfl x fuel rest

/-- A remark may hold whatever its line may. -/
theorem layoutFault?_remark {t : Text} (h : (PlainLine.remark t).IsPlain) (n : Nat) :
    layoutFault? ⟨.comment, n, '#' :: t⟩ = none := by
  have hfree : ('#' :: t).findIdx? (!isCommentCharacter ·) = none := by
    rw [List.findIdx?_eq_none_iff]
    intro c hc
    rw [List.mem_cons] at hc
    rcases hc with rfl | hc
    · rfl
    · rw [h c hc]
      rfl
  exact congrArg (Option.map (n + ·)) hfree

/-- The tokens of lines make these lines. -/
theorem linesOf_tokensAt (h : ∀ l ∈ lines, l.IsPlain) (x : Extent) {fuel start : Nat}
    (hfuel : (tokensAt start lines).length < fuel) :
    linesOf x fuel (tokensAt start lines) = .ok ((pairsAt start lines).map lineOf) := by
  induction lines generalizing fuel start with
  | nil =>
    obtain ⟨fuel, rfl⟩ := Nat.exists_eq_succ_of_ne_zero (Nat.ne_of_gt hfuel)
    rfl
  | cons line lines ih =>
    rw [List.forall_mem_cons] at h
    rw [tokensAt, List.length_append, length_placed, Nat.add_comm] at hfuel
    have hrest {more : Nat}
        (hmore : (tokensAt (start + line.written.length) lines).length < more) := ih h.2 hmore
    cases line with
    | blank =>
      change _ + 1 < fuel at hfuel
      obtain ⟨fuel, rfl⟩ : ∃ n, fuel = n + 1 := ⟨fuel - 1, by omega⟩
      exact (linesOf_newline x fuel start _).trans (hrest (by omega))
    | remark t =>
      change _ + 2 < fuel at hfuel
      obtain ⟨fuel, rfl⟩ : ∃ n, fuel = n + 2 := ⟨fuel - 2, by omega⟩
      exact (linesOf_layout rfl (layoutFault?_remark h.1 start) x (fuel + 1) _).trans
        ((linesOf_newline x fuel _ _).trans (hrest (by omega)))
    | pair key v =>
      change _ + 6 < fuel at hfuel
      obtain ⟨fuel, rfl⟩ : ∃ n, fuel = n + 1 := ⟨fuel - 1, by omega⟩
      refine bind_eq_ok.mpr ⟨_, line_pair x start key v _, ?_⟩
      exact bind_eq_ok.mpr ⟨_, hrest (by omega), rfl⟩

/-! ## The entries of a file -/

theorem alter_of_notMem {key : Text} {entries : Entries} (h : key ∉ keysOf entries)
    (change : Option (Nat × Value) → Reading (Nat × Value)) :
    alter key change entries = (change none).map fun new => entries ++ [(key, new)] := by
  induction entries with
  | nil =>
    rw [alter]
    cases change none <;> rfl
  | cons entry entries ih =>
    rw [keysOf, List.map_cons, List.mem_cons, not_or] at h
    rw [alter, if_neg (Ne.symm h.1), ih h.2]
    cases change none <;> rfl

theorem readKeys_bare {key : Text} (hne : key ≠ []) (h : ∀ c ∈ key, isKeyCharacter c = true)
    (start : Nat) : readKeys [⟨.bare, start, key⟩] = .ok [⟨key, start⟩] := by
  have hfree : key.findIdx? (!isKeyCharacter ·) = none := by
    rw [List.findIdx?_eq_none_iff]
    intro c hc
    rw [h c hc]
    rfl
  have htext : keyText ⟨.bare, start, key⟩ = .ok key := by
    rw [keyText]
    dsimp only
    rw [if_neg (by simpa using hne), hfree]
  rw [readKeys, readParts, htext]
  rfl

/-- A line with a new key puts its entry behind the others. -/
theorem addLine_lineOf {start : Nat} {key : Text} {v : FieldValue} (h : (pair key v).IsPlain)
    (rules : Rules) {d : Document} (hnew : key ∉ keysOf d.current) :
    d.addLine rules (lineOf (start, key, v))
      = .ok { d with current := d.current ++ [entryOf (start, key, v)] } := by
  have hinsert : insertAt rules [⟨key, start⟩] (start + key.length + 3) v.inFile d.current
      = .ok (d.current ++ [entryOf (start, key, v)]) :=
    alter_of_notMem hnew _
  have hvalue : readValue rules (.scalar ⟨v.tokenKind, start + key.length + 3, v.written⟩)
      = .ok v.inFile := by
    rw [readValue, scalarValue_written h.2.2]
    rfl
  refine bind_eq_ok.mpr ⟨_, readKeys_bare h.1 h.2.1 start, bind_eq_ok.mpr ⟨_, hvalue, ?_⟩⟩
  exact bind_eq_ok.mpr ⟨_, hinsert, rfl⟩

/-- Lines with distinct keys, none of which is there before, put their entries behind the
others. -/
theorem addLines_lineOf (h : ∀ l ∈ lines, l.IsPlain) (rules : Rules) (start : Nat) {d : Document}
    (hdistinct : (keysOf d.current ++ (lines.filterMap pair?).map (·.1)).Nodup) :
    ((pairsAt start lines).map lineOf).foldlM (Document.addLine rules) d
      = .ok { d with current := d.current ++ (pairsAt start lines).map entryOf } := by
  induction lines generalizing start d with
  | nil =>
    rw [pairsAt, List.map_nil, List.map_nil, List.append_nil]
    rfl
  | cons line lines ih =>
    rw [List.forall_mem_cons] at h
    cases line with
    | blank => exact ih h.2 _ hdistinct
    | remark t => exact ih h.2 _ hdistinct
    | pair key v =>
      have hnew : key ∉ keysOf d.current := by
        intro hmem
        exact (List.nodup_append.mp hdistinct).2.2 key hmem key (.head _) rfl
      rw [pairsAt, List.map_append, List.map_append]
      refine bind_eq_ok.mpr ⟨_, addLine_lineOf h.1 rules hnew, ?_⟩
      refine (ih h.2 _ ?_).trans ?_
      · rw [keysOf, List.map_append, List.append_assoc]
        exact hdistinct
      · rw [List.append_assoc]
        rfl

end PlainLine

/-! ## Whole files -/

/-- A file of plain lines, no two of which have one key. -/
structure PlainFile where
  lines : List PlainLine
  plain : ∀ l ∈ lines, l.IsPlain
  distinct : ((lines.filterMap PlainLine.pair?).map (·.1)).Nodup

namespace PlainFile

open Toml

/-- The text of a file. -/
def written (file : PlainFile) : Text := file.lines.flatMap PlainLine.written

/-- The keys of a file with their values. -/
def values (file : PlainFile) : List (Text × FieldValue) := file.lines.filterMap PlainLine.pair?

/-- A plain file has no byte order mark. -/
theorem dropMark_written (file : PlainFile) : (dropMark file.written).2 = file.written := by
  obtain ⟨lines, hplain, -⟩ := file
  rcases lines with _ | ⟨line, lines⟩
  · rfl
  have hfirst {c : Char} {r : Text} (h : PlainLine.written line = c :: r) : c ≠ byteOrderMark := by
    rintro rfl
    have hline := hplain line (.head _)
    cases line with
    | blank => cases h
    | remark t => cases h
    | pair key v =>
      obtain ⟨d, key, rfl⟩ := List.exists_cons_of_ne_nil hline.1
      cases h
      exact absurd (hline.2.1 _ (.head _)) (by decide)
  rw [written, List.flatMap_cons]
  cases htext : PlainLine.written line with
  | nil => cases line <;> simp [PlainLine.written] at htext
  | cons c r => rw [List.cons_append, dropMark, if_neg (hfirst htext)]

/-- The entries of a plain file in the order of their lines. -/
def entries (file : PlainFile) : Entries :=
  (PlainLine.pairsAt 0 file.lines).map PlainLine.entryOf

theorem keysOf_entries (file : PlainFile) :
    keysOf file.entries = file.values.map (·.1) := by
  rw [values, ← PlainLine.map_pairsAt 0]
  simp [keysOf, entries, PlainLine.entryOf]

/-- A plain file is read as what it has line by line, in the order of the keys. -/
theorem parse_written (file : PlainFile) (rules : Rules) :
    parse rules file.written = .ok (sortByKey (sortedEntries file.entries)) := by
  have hlines : linesOfTokens (lex file.written)
      = .ok ((PlainLine.pairsAt 0 file.lines).map PlainLine.lineOf) := by
    rw [lex, written, PlainLine.lexFrom_lines file.plain]
    exact PlainLine.linesOf_tokensAt file.plain _ (Nat.lt_succ_self _)
  have hdistinct : (keysOf (Document.mk [] none []).current
      ++ (file.lines.filterMap PlainLine.pair?).map (·.1)).Nodup := file.distinct
  have hread := PlainLine.addLines_lineOf file.plain rules 0 hdistinct
  rw [parse_eq_ok, dropMark_written]
  refine bind_eq_ok.mpr ⟨_, ofOffset_eq_ok.mpr hlines, bind_eq_ok.mpr ⟨_, hread, ?_⟩⟩
  rfl

theorem sortedEntries_entries (file : PlainFile) : sortedEntries file.entries = file.entries := by
  unfold entries
  induction PlainLine.pairsAt 0 file.lines with
  | nil => rfl
  | cons p ps ih =>
    obtain ⟨start, key, v⟩ := p
    cases v <;> exact congrArg (_ :: ·) ih

/-- The entry under a key is the value that is written behind it. -/
theorem lookup_of_parse {file : PlainFile} {rules : Rules} {entries : Entries}
    (h : parse rules file.written = .ok entries) (key : Text) :
    (entries.lookup key).map (·.2) = (file.values.lookup key).map FieldValue.inFile := by
  rw [parse_written, sortedEntries_entries] at h
  have hperm : (sortByKey file.entries).Perm file.entries := List.mergeSort_perm _ _
  have hdistinct : (keysOf file.entries).Nodup := by
    rw [keysOf_entries]
    exact file.distinct
  rw [← Except.ok.inj h, ← lookup_eq_of_perm hperm.symm hdistinct, values,
    ← PlainLine.map_pairsAt 0, PlainFile.entries]
  induction PlainLine.pairsAt 0 file.lines with
  | nil => rfl
  | cons p ps ih =>
    obtain ⟨start, name, v⟩ := p
    rw [List.map_cons, List.map_cons, PlainLine.entryOf, List.lookup_cons, List.lookup_cons]
    cases key == name with
    | true => rfl
    | false => exact ih

/-- A plain file gives every field the value that is written behind its key, and no other. -/
theorem sets_of_settings [ForeignSettings] {file : PlainFile} {origin : Text} {settings : Settings}
    (h : FileFormat.toml.settings origin file.written = .ok settings) (f : ConfigField) :
    settings.sets f = (file.values.lookup f.key).map (f.reading ·.inSettings) := by
  rw [FileFormat.settings, parse_written] at h
  dsimp only at h
  have hparse := parse_written file .lenient
  have hvalue := lookup_of_parse hparse f.key
  rw [Settings.sets, FileFormat.last?_of_tomlSettings h (nodup_of_parse hparse)]
  have hscalar (e : Option (Nat × Value)) :
      e.bind (·.2.scalar?) = (e.map (·.2)).bind (·.scalar?) := by
    cases e <;> rfl
  rw [hscalar, hvalue]
  cases file.values.lookup f.key with
  | none => rfl
  | some v => rw [Option.map_some, Option.bind_some, FieldValue.scalar?_inFile]; rfl

end PlainFile

end TableScaffold
