import TableScaffold.Template.Engine
import TableScaffold.Template.Expression
import TableScaffold.Text.Blank

/-!
# The parts of a template

A template is text with three kinds of tags in it: slots between double braces,
comments, and raw blocks, whose text is taken as it stands.  A minus sign inside
a tag drops the white space on its side.  Everything else is text, also a brace
that begins no tag.

`parts` cuts a template into literal text and named slots, and `render` replaces
the slots by their values in one pass.  A template in which a statement stands, or an
expression that is made of more than one name or constant, is left to the template
engine (`Engine`).
-/

namespace TableScaffold.Template

/-- A part of a template. -/
inductive Part where
  /-- literal text -/
  | text (t : Text)
  /-- the value of a name; `place` is the template from the name on -/
  | slot (name place : Text)
  /-- a statement, or an expression that is made of more than one name or constant;
  `place` is the template from its tag on -/
  | beyond (place : Text)
  deriving DecidableEq, Repr

/-! ## Where tags begin -/

/-- What a tag begins with. -/
inductive Opener where
  /-- what holds tokens -/
  | tag (kind : TagKind)
  | comment
  deriving DecidableEq, Repr

/-- The kind of tag that a character makes of the brace before it. -/
def opener? (c : Char) : Option Opener :=
  match c with
  | '\x7b' => some (.tag .slot)
  | '%' => some (.tag .block)
  | '#' => some .comment
  | _ => none

/-- The beginning of a tag. -/
structure Opening where
  opener : Opener
  /-- the template from the tag's brace on -/
  place : Text
  /-- the template behind the tag's first two characters -/
  behind : Text

/-- The text before the first tag, and the tag if there is one. -/
def splitAtTag : Text → Text × Option Opening
  | [] => ([], none)
  | [c] => ([c], none)
  | c :: d :: r =>
    match if c = '\x7b' then opener? d else none with
    | some opener => ([], some ⟨opener, c :: d :: r, r⟩)
    | none => (c :: (splitAtTag (d :: r)).1, (splitAtTag (d :: r)).2)

/-- The text behind the sign of a tag, and whether the sign is a minus. -/
def dropSign (t : Text) : Bool × Text :=
  match t with
  | '-' :: r => (true, r)
  | '+' :: r => (false, r)
  | r => (false, r)

/-- A text without the white space at its end. -/
def trimEnd (t : Text) : Text := (t.reverse.dropWhile Text.isBlank).reverse

/-! ## Comments and raw blocks -/

/-- The text behind a comment, and whether white space there is dropped;
`before` is the character before the text. -/
def commentEnd (before : Char) : Text → Option (Bool × Text)
  | [] => none
  | [_] => none
  | c :: d :: r =>
    if c = '#' && d = '\x7d' then some (before = '-', r) else commentEnd c (d :: r)

/-- The text behind the rest of a block tag that holds one keyword, and whether
white space there is dropped. -/
def keywordTag (keyword t : Text) : Option (Bool × Text) :=
  match Text.dropPrefix? keyword (t.dropWhile isTagBlank) with
  | none => none
  | some r =>
    let (trim, r) := dropSign (r.dropWhile isTagBlank)
    match r with
    | '%' :: '\x7d' :: r => some (trim, r)
    | _ => none

/-- The text of a raw block, whether white space at its end and behind the block
is dropped, and the text behind the block. -/
def rawText : Text → Option (Text × Bool × Bool × Text)
  | [] => none
  | [_] => none
  | c :: d :: r =>
    match if c = '\x7b' && d = '%' then keywordTag "endraw".toList (dropSign r).2 else none with
    | some (trimBehind, rest) => some ([], (dropSign r).1, trimBehind, rest)
    | none => (rawText (d :: r)).map fun p => (c :: p.1, p.2)

/-! ## Slots -/

/-- The text of quoted texts that stand side by side, if there is nothing else. -/
def joinedStrings? : List TagToken → Option Text
  | [] => some []
  | .string t :: ts => (joinedStrings? ts).map (t ++ ·)
  | _ :: _ => none

/-- A number with a point as it is shown. -/
def shownFloat (x : Binary64) : Text :=
  let shown := x.display
  match x with
  | .finite _ _ _ => if shown.contains '.' then shown else shown ++ ".0".toList
  | _ => shown

/-- The tokens inside the parentheses around an expression, if there are some. -/
def dropParentheses (tokens : List (Text × TagToken)) : List (Text × TagToken) :=
  match tokens.head?, tokens.getLast? with
  | some (_, .mark .openParenthesis), some (_, .mark .closeParenthesis) =>
    if tokens.length ≤ 2 then tokens else dropParentheses tokens.tail.dropLast
  | _, _ => tokens
termination_by tokens.length
decreasing_by simp only [List.length_dropLast, List.length_tail]; omega

/-- What a well-formed expression stands for, whose slot begins at `place`: a word,
quoted texts, a number or an empty bracket have a value, also between parentheses, and
what is made of more is left to the engine. -/
def slotValue (place : Text) (tokens : List (Text × TagToken)) : Part :=
  match dropParentheses tokens with
  | [(position, .name word)] =>
    match constants.lookup word with
    | some shown => .text shown
    | none => .slot word position
  | [(_, .integer n _)] => .text (Text.ofNat n)
  | [(_, .float x)] => .text (shownFloat x)
  | [(_, .mark .openBrace), (_, .mark .closeBrace)] => .text "\x7b\x7d".toList
  | [(_, .mark .openBracket), (_, .mark .closeBracket)] => .text "[]".toList
  | [(_, .mark .openParenthesis), (_, .mark .closeParenthesis)] => .text "[]".toList
  | tokens =>
    match joinedStrings? (tokens.map (·.2)) with
    | some t => .text t
    | none => .beyond place

/-- The part that a slot makes, whether white space behind it is dropped, and the text
behind it.  `place` is the template from the slot on, and `t` the inside of the slot. -/
def readSlot (place t : Text) : Except Misreading (Part × Bool × Text) :=
  match tagTokens .slot 0 t with
  | (tokens, ending) =>
    match Reader.check { last := place } ending tokens, ending with
    | .error e, _ => .error e
    | .ok _, .closed trim rest => .ok (slotValue place tokens.dropLast, trim, rest)
    | .ok _, _ => .error (.unexpectedInstead .endOfInput .slotEnd, place)

/-! ## Tags -/

/-- What is wrong with a block that is neither a raw one nor a statement; `place` is the template from the
block on, and `t` the inside of the block. -/
def blockFault (place t : Text) : Misreading :=
  match tagTokens .block 0 t with
  | ((position, .name keyword) :: _, _) => (.unknownStatement keyword, position)
  | ((position, token) :: _, _) => (.noStatement token.found, position)
  | ([], .broken e) => if e.1 = .badEscape then (e.1, place) else e
  | ([], _) => (.unexpectedInstead .endOfInput .keyword, place)

/-- The keywords that statements begin with. -/
def statementKeywords : List Text :=
  ["for", "if", "with", "set", "autoescape", "filter", "block", "extends", "include", "import",
    "from", "macro", "call", "do"].map String.toList

/-- The part that a block makes which is not a raw one.  Behind a statement nothing is
read, because the statement tells how. -/
def readBlock (place t : Text) : Except Misreading (Option Part × Bool × Text) :=
  match blockFault place t with
  | (.unknownStatement keyword, position) =>
    if statementKeywords.contains keyword then .ok (some (.beyond place), false, [])
    else .error (.unknownStatement keyword, position)
  | fault => .error fault

/-- The part that a tag makes, if any, whether white space behind it is dropped,
and the text behind it.  `t` is the text behind the tag's opening and sign. -/
def readTag (opener : Opener) (place t : Text) : Except Misreading (Option Part × Bool × Text) :=
  match opener with
  | .tag .slot =>
    match readSlot place t with
    | .error e => .error e
    | .ok (part, trim, rest) => .ok (some part, trim, rest)
  | .comment =>
    match commentEnd ' ' t with
    | none => .error (.unclosedComment, [])
    | some (trim, rest) => .ok (none, trim, rest)
  | .tag .block =>
    match keywordTag "raw".toList t with
    | none => readBlock place t
    | some (trimFront, body) =>
      match rawText body with
      | none => .error (.unclosedRaw, [])
      | some (raw, trimBack, trim, rest) =>
        let raw := if trimFront then raw.dropWhile Text.isBlank else raw
        .ok (some (.text (if trimBack then trimEnd raw else raw)), trim, rest)

/-! ## Rests are shorter -/

theorem splitAtTag_length {t lead : Text} {o : Opening}
    (h : splitAtTag t = (lead, some o)) : o.behind.length < t.length := by
  fun_induction splitAtTag t generalizing lead with
  | case1 => simp at h
  | case2 => simp at h
  | case3 c d r kind _ =>
    simp only [Prod.mk.injEq, Option.some.injEq] at h
    simp only [← h.2, List.length_cons]
    omega
  | case4 c d r _ ih =>
    simp only [Prod.mk.injEq] at h
    have := @ih (splitAtTag (d :: r)).1 (by rw [← h.2])
    simp only [List.length_cons] at this ⊢
    omega

theorem dropSign_length (t : Text) : (dropSign t).2.length ≤ t.length := by
  unfold dropSign
  split <;> simp

theorem commentEnd_length {before : Char} {t rest : Text} {trim : Bool}
    (h : commentEnd before t = some (trim, rest)) : rest.length ≤ t.length := by
  fun_induction commentEnd before t with
  | case1 => simp at h
  | case2 => simp at h
  | case3 =>
    simp only [Option.some.injEq, Prod.mk.injEq] at h
    simp only [← h.2, List.length_cons]
    omega
  | case4 _ _ _ _ _ ih =>
    have := ih h
    simp only [List.length_cons] at this ⊢
    omega

theorem keywordTag_length {keyword t rest : Text} {trim : Bool}
    (h : keywordTag keyword t = some (trim, rest)) : rest.length ≤ t.length := by
  rw [keywordTag] at h
  split at h
  · simp at h
  · next r hr =>
    have h1 := Text.length_dropWhile_le isTagBlank t
    have h2 := Text.length_dropWhile_le isTagBlank r
    have h3 := dropSign_length (r.dropWhile isTagBlank)
    rw [Text.dropPrefix?_eq_some.1 hr, List.length_append] at h1
    simp only at h
    split at h
    · next heq =>
      simp only [Option.some.injEq, Prod.mk.injEq] at h
      rw [heq, h.2] at h3
      simp only [List.length_cons] at h3
      omega
    · simp at h

theorem rawText_length {t raw rest : Text} {trimBack trim : Bool}
    (h : rawText t = some (raw, trimBack, trim, rest)) : rest.length ≤ t.length := by
  fun_induction rawText t generalizing raw with
  | case1 => simp at h
  | case2 => simp at h
  | case3 c d r trimBehind rest' heq =>
    simp only [Option.some.injEq, Prod.mk.injEq] at h
    split at heq
    · have := keywordTag_length heq
      have := dropSign_length r
      rw [← h.2.2.2]
      simp only [List.length_cons]
      omega
    · simp at heq
  | case4 c d r _ ih =>
    obtain ⟨p, hp, hq⟩ := Option.map_eq_some_iff.1 h
    simp only [Prod.mk.injEq] at hq
    have := @ih p.1 (by rw [hp, ← hq.2])
    simp only [List.length_cons] at this ⊢
    omega

theorem readSlot_length {place t rest : Text} {part : Part} {trim : Bool}
    (h : readSlot place t = .ok (part, trim, rest)) : rest.length < t.length := by
  unfold readSlot at h
  split at h
  next tokens ending htokens =>
    split at h
    · simp at h
    · simp only [Except.ok.injEq, Prod.mk.injEq] at h
      rw [← h.2.2]
      exact tagTokens_length htokens
    · simp at h

theorem readBlock_length {place t rest : Text} {part : Option Part} {trim : Bool}
    (h : readBlock place t = .ok (part, trim, rest)) : rest = [] := by
  unfold readBlock at h
  split at h
  · split at h
    · simp only [Except.ok.injEq, Prod.mk.injEq] at h
      exact h.2.2.symm
    · simp at h
  · simp at h

theorem readTag_length {opener : Opener} {place t rest : Text} {part : Option Part} {trim : Bool}
    (h : readTag opener place t = .ok (part, trim, rest)) : rest.length ≤ t.length := by
  unfold readTag at h
  split at h
  · split at h
    · simp at h
    · next hs =>
      have := readSlot_length hs
      simp only [Except.ok.injEq, Prod.mk.injEq] at h
      rw [← h.2.2]
      omega
  · split at h
    · simp at h
    · next hs =>
      have := commentEnd_length hs
      simp only [Except.ok.injEq, Prod.mk.injEq] at h
      rw [← h.2.2]
      omega
  · split at h
    · rw [readBlock_length h]
      exact Nat.zero_le _
    · next hk =>
      have := keywordTag_length hk
      split at h
      · simp at h
      · next hr =>
        have := rawText_length hr
        simp only [Except.ok.injEq, Prod.mk.injEq] at h
        rw [← h.2.2]
        omega

/-! ## All parts -/

/-- The parts of a template; `trim` tells whether the white space at its front is
dropped. -/
def parts (trim : Bool) (t : Text) : Except Misreading (List Part) :=
  match _h : splitAtTag (if trim then t.dropWhile Text.isBlank else t) with
  | (lead, none) => .ok [.text lead]
  | (lead, some o) =>
    match _hr : readTag o.opener o.place (dropSign o.behind).2 with
    | .error e => .error e
    | .ok (part, trim, rest) =>
      match parts trim rest with
      | .error e => .error e
      | .ok ps =>
        .ok (.text (if (dropSign o.behind).1 then trimEnd lead else lead) :: part.toList ++ ps)
termination_by t.length
decreasing_by
  have h1 := splitAtTag_length _h
  have h2 := dropSign_length o.behind
  have h3 := readTag_length _hr
  have h4 := Text.length_dropWhile_le Text.isBlank t
  split at h1 <;> omega

/-! ## Rendering -/

/-- The line of a template on which the text `place`, its end, begins. -/
def lineOf (template place : Text) : Nat :=
  (template.take (template.length - place.length)).count '\n' + 1

/-- The text of a name that has a value in every template, unless a slot has that name. -/
def globalText? (name : Text) : Option Text :=
  if ["range", "dict", "debug", "namespace"].map String.toList |>.contains name then
    some ("minijinja::functions::builtins::".toList ++ name)
  else none

/-- The parts with every slot replaced by its value, or the place of the first
slot that has none. -/
def fill (slots : Slots) : List Part → Except Text Text
  | [] => .ok []
  | .text t :: ps => (fill slots ps).map (t ++ ·)
  | .slot name place :: ps =>
    match (slots.get? name).or (globalText? name) with
    | none => .error place
    | some value => (fill slots ps).map (value ++ ·)
  | .beyond place :: _ => .error place

/-- Whether a part is left to the engine. -/
def Part.isBeyond : Part → Bool
  | beyond _ => true
  | _ => false

/-- A template that is made of slots, with every slot replaced by its value, or what is
wrong with it and on which line.  The values are not read again. -/
def fillTemplate (template : Text) (slots : Slots) : Except (Fault × Nat) Text :=
  match parts false template with
  | .error (fault, place) => .error (fault, lineOf template place)
  | .ok ps =>
    match fill slots ps with
    | .error place => .error (.undefinedValue, lineOf template place)
    | .ok t => .ok t

/-- Whether a template is left to the engine. -/
def isBeyondSlots (template : Text) : Bool :=
  match parts false template with
  | .error _ => false
  | .ok ps => ps.any Part.isBeyond

/-- What the template called `name` makes of the slots. -/
def render [Engine] (name template : Text) (slots : Slots) : Except Failure Text :=
  let result :=
    if isBeyondSlots template then Engine.render name template slots
    else fillTemplate template slots
  result.mapError fun (fault, line) => ⟨name, fault, line⟩

end TableScaffold.Template
