import TableScaffold.Text.Numeral

/-!
# Quoted text in tags

A text between apostrophes or quotes, with backslashes for what cannot stand there as
it is.  An escape stands for a character or for one half of a pair of surrogates; both
halves have to be there, one behind the other.
-/

namespace TableScaffold.Template.Quoted

/-- A quoted text as written, up to its closing quote, with the text behind it. -/
def source? (q : Char) : Text → Option (Text × Text)
  | [] => none
  | [c] => if c = q then some ([], []) else none
  | c :: d :: r =>
    if c = q then some ([], d :: r)
    else if c = '\\' then (source? q r).map fun p => (c :: d :: p.1, p.2)
    else (source? q (d :: r)).map fun p => (c :: p.1, p.2)

theorem source?_length {q : Char} {t source rest : Text}
    (h : source? q t = some (source, rest)) : rest.length < t.length := by
  fun_induction source? q t generalizing source rest with
  | case1 => simp at h
  | case2 => simp_all
  | case3 => simp at h
  | case4 => simp_all
  | case5 d r _ ih =>
    obtain ⟨p, hp, hq⟩ := Option.map_eq_some_iff.1 h
    simp only [Prod.mk.injEq] at hq
    have := @ih p.1 p.2 hp
    simp only [List.length_cons, ← hq.2]
    omega
  | case6 c d r _ _ ih =>
    obtain ⟨p, hp, hq⟩ := Option.map_eq_some_iff.1 h
    simp only [Prod.mk.injEq] at hq
    have := @ih p.1 p.2 hp
    simp only [List.length_cons, ← hq.2] at this ⊢
    omega

/-! ## Escapes -/

/-- What a piece of a quoted text stands for. -/
inductive Piece where
  | char (c : Char)
  /-- one half of a pair of surrogates -/
  | half (n : Nat)
  deriving DecidableEq, Repr

/-- The character of a one-letter escape. -/
def simple? (c : Char) : Option Char :=
  match c with
  | '"' => some '"'
  | '\\' => some '\\'
  | '/' => some '/'
  | '\'' => some '\''
  | 'b' => some '\x08'
  | 'f' => some '\x0c'
  | 'n' => some '\n'
  | 'r' => some '\r'
  | 't' => some '\t'
  | _ => none

/-- The number of the first `width` characters of a text, which are hexadecimal digits,
or a plus sign and such digits. -/
def codeUnit? (width : Nat) (t : Text) : Option Nat :=
  let digits := t.take width
  let digits := if digits.head? = some '+' then digits.tail else digits
  if t.length < width || digits.isEmpty then none else Text.numeral? 16 digits

/-- What a code unit stands for. -/
def Piece.ofUnit (n : Nat) : Piece := if Text.isCodePoint n then char (Char.ofNat n) else half n

/-- The pieces of a quoted text as written.  A backslash before any other character
stands for itself. -/
def pieces? : Text → Option (List Piece)
  | [] => some []
  | [c] => if c = '\\' then none else some [.char c]
  | c :: d :: r =>
    if c ≠ '\\' then (pieces? (d :: r)).map (.char c :: ·)
    else if d = 'u' then
      (codeUnit? 4 r).bind fun n => (pieces? (r.drop 4)).map (.ofUnit n :: ·)
    else if d = 'x' then
      (codeUnit? 2 r).bind fun n => (pieces? (r.drop 2)).map (.ofUnit n :: ·)
    else if Text.isOctalDigit d then
      let more := (r.take 2).takeWhile Text.isOctalDigit
      match (Text.numeral? 8 (d :: more)).filter (· < 256) with
      | some n => (pieces? (r.drop more.length)).map (.ofUnit n :: ·)
      | none => none
    else
      match simple? d with
      | some e => (pieces? r).map (.char e :: ·)
      | none => (pieces? r).map fun ps => .char c :: .char d :: ps
termination_by t => t.length
decreasing_by
  all_goals
    simp only [List.length_drop, List.length_cons]
    omega

/-- The character that two halves make. -/
def joinHalves? (high low : Nat) : Option Char :=
  if 0xD800 ≤ high && high < 0xDC00 && 0xDC00 ≤ low && low < 0xE000 then
    some (Char.ofNat (0x10000 + (high - 0xD800) * 0x400 + (low - 0xDC00)))
  else none

/-- The text that pieces make, if every half has its other half behind it. -/
def ofPieces? : List Piece → Option Text
  | [] => some []
  | .char c :: ps => (ofPieces? ps).map (c :: ·)
  | .half high :: .half low :: ps =>
    (joinHalves? high low).bind fun c => (ofPieces? ps).map (c :: ·)
  | .half _ :: _ => none

/-- The text that a quoted text as written stands for. -/
def unescape? (t : Text) : Option Text := (pieces? t).bind ofPieces?

end TableScaffold.Template.Quoted
