import TableScaffold.Number.Shortest
import TableScaffold.Template.Fault
import TableScaffold.Template.Quoted

/-!
# Inside a tag

A tag falls into tokens up to its end, which counts only outside all brackets.  A
token comes with the text from its place on, so that its line can be told.
-/

namespace TableScaffold.Template

/-- A fault with the text from its place on. -/
abbrev Misreading := Fault × Text

/-- A tag that holds tokens. -/
inductive TagKind where
  | slot
  | block
  deriving DecidableEq, Repr

/-- The characters that close a tag. -/
def TagKind.closing : TagKind → Text
  | slot => ['\x7d', '\x7d']
  | block => ['%', '\x7d']

/-- The least piece of the inside of a tag. -/
inductive TagToken where
  | name (name : Text)
  | string (value : Text)
  /-- an integer; `large` if it has more than 64 bits -/
  | integer (value : Nat) (large : Bool)
  | float (value : Binary64)
  | mark (m : Mark)
  /-- the end of the tag; `trim` if white space behind it is dropped -/
  | tagEnd (kind : TagKind) (trim : Bool)
  deriving DecidableEq, Repr

namespace TagToken

/-- A token as a fault mentions it. -/
def found : TagToken → Found
  | name _ => .name
  | string _ => .string
  | integer _ large => if large then .largeInteger else .integer
  | float _ => .float
  | mark m => .mark m
  | tagEnd .slot _ => .slotEnd
  | tagEnd .block _ => .blockEnd

/-- How many more brackets are open behind a token than before it. -/
def balance : TagToken → Int
  | mark m => m.balance
  | _ => 0

end TagToken

/-! ## Characters -/

/-- White space inside a tag. -/
def isTagBlank (c : Char) : Bool :=
  c = ' ' || c = '\t' || c = '\n' || c = '\r' || c = '\x0c'

/-- Whether a character begins a name. -/
def isNameStart (c : Char) : Bool := c.isAlpha || c = '_'

/-- Whether a name goes on with a character. -/
def isNamePart (c : Char) : Bool := c.isAlphanum || c = '_'

/-! ## Numbers -/

/-- The base that the second character of a number tells, if the first one is a zero. -/
def numberBase? (c : Char) : Option Nat :=
  match c.toLower with
  | 'x' => some 16
  | 'o' => some 8
  | 'b' => some 2
  | _ => none

/-- How far a number of base ten has been read. -/
inductive NumberPart where
  | whole
  | fraction
  /-- behind the letter for an exponent -/
  | mark
  | exponent
  deriving DecidableEq, Repr

/-- The part that a character belongs to, behind a character of the given part. -/
def NumberPart.next? (part : NumberPart) (c : Char) : Option NumberPart :=
  if c = '_' then some part
  else if c.isDigit then some (if part = .mark then .exponent else part)
  else if c = '.' then (if part = .whole then some .fraction else none)
  else if c = 'e' || c = 'E' then
    (if part = .whole || part = .fraction then some .mark else none)
  else if c = '+' || c = '-' then (if part = .mark then some .exponent else none)
  else none

/-- The last part of the number at the front of a text, and the length of the number. -/
def numberExtent (part : NumberPart) : Text → NumberPart × Nat
  | [] => (part, 0)
  | c :: r =>
    match part.next? c with
    | none => (part, 0)
    | some next => ((numberExtent next r).1, (numberExtent next r).2 + 1)

/-- The number that the characters of a numeral make; an underscore counts for nothing,
but cannot be the last one. -/
def numeralToken (base : Nat) (whole : Bool) (t : Text) : Except Fault TagToken :=
  let digits := t.filter (· ≠ '_')
  let isNumeralDigit (c : Char) : Bool := (Text.digit? base c).isSome
  if t.getLast? = some '_' then .error .danglingUnderscore
  else if whole then
    match if digits.all isNumeralDigit then Text.numeral? base digits else none with
    | none => .error .badInteger
    | some n =>
      if digits.isEmpty || Nat.pow 2 128 ≤ n then .error .badInteger
      else .ok (.integer n (Nat.pow 2 64 ≤ n))
  else
    match Binary64.unsigned? false digits with
    | some x => .ok (.float x)
    | none => .error .badFloat

/-- The number that begins with the digit `c`, and the text behind it. -/
def numberToken (c : Char) (r : Text) : Except Fault TagToken × Text :=
  match if c = '0' then (r.head?.bind numberBase?) else none with
  | some base =>
    let isPart (d : Char) : Bool := d = '_' || d.isDigit || (base = 16 && Text.isHexDigit d)
    (numeralToken base true (r.tail.takeWhile isPart), r.tail.dropWhile isPart)
  | none =>
    let (part, length) := numberExtent .whole r
    (numeralToken 10 (part = .whole) (c :: r.take length), r.drop length)

/-! ## Tokens -/

/-- The end of a tag that begins with `c`: whether it has a minus sign, and the text
behind it. -/
def tagEnd? (kind : TagKind) (c : Char) (r : Text) : Option (Bool × Text) :=
  if c = '-' || c = '+' then (Text.dropPrefix? kind.closing r).map (c = '-', ·)
  else (Text.dropPrefix? kind.closing (c :: r)).map (false, ·)

/-- The token that begins with `c`, with the text behind it.  `outside` tells whether no
bracket is open. -/
def tagToken (kind : TagKind) (outside : Bool) (c : Char) (r : Text) :
    Except Misreading (TagToken × Text) :=
  match if outside then tagEnd? kind c r else none with
  | some (trim, rest) => .ok (.tagEnd kind trim, rest)
  | none =>
    if c = '\'' || c = '"' then
      match Quoted.source? c r with
      | none => .error (.unclosedString, [])
      | some (source, rest) =>
        match Quoted.unescape? source with
        | some value => .ok (.string value, rest)
        | none => .error (.badEscape, c :: r)
    else if c.isDigit then
      match numberToken c r with
      | (.ok token, rest) => .ok (token, rest)
      | (.error fault, _) => .error (fault, c :: r)
    else
      match Mark.ofText? c r with
      | some (m, rest) => .ok (.mark m, rest)
      | none =>
        if isNameStart c then
          .ok (.name (c :: r.takeWhile isNamePart), r.dropWhile isNamePart)
        else .error (.strayCharacter, c :: r)

/-- The next token behind white space: the text from its first character on, the
token, and the text behind it. -/
def nextToken (kind : TagKind) (outside : Bool) (t : Text) :
    Except Misreading (Option (Text × TagToken × Text)) :=
  match t.dropWhile isTagBlank with
  | [] => .ok none
  | c :: r =>
    match tagToken kind outside c r with
    | .error e => .error e
    | .ok (token, rest) => .ok (some (c :: r, token, rest))

/-! ## Rests are shorter -/

theorem TagKind.length_closing (kind : TagKind) : kind.closing.length = 2 := by
  cases kind <;> rfl

theorem tagEnd?_length {kind : TagKind} {c : Char} {r rest : Text} {trim : Bool}
    (h : tagEnd? kind c r = some (trim, rest)) : rest.length ≤ r.length := by
  have hlen := kind.length_closing
  unfold tagEnd? at h
  split at h
  · obtain ⟨a, ha, hp⟩ := Option.map_eq_some_iff.1 h
    have := congrArg List.length (Text.dropPrefix?_eq_some.1 ha)
    simp only [Prod.mk.injEq] at hp
    simp only [List.length_append] at this
    rw [← hp.2]
    omega
  · obtain ⟨a, ha, hp⟩ := Option.map_eq_some_iff.1 h
    have := congrArg List.length (Text.dropPrefix?_eq_some.1 ha)
    simp only [Prod.mk.injEq] at hp
    simp only [List.length_append, List.length_cons] at this
    rw [← hp.2]
    omega

theorem numberToken_length (c : Char) (r : Text) :
    (numberToken c r).2.length ≤ r.length := by
  unfold numberToken
  split
  · exact Nat.le_trans (Text.length_dropWhile_le ..) (by simp)
  · simp

theorem tagToken_length {kind : TagKind} {outside : Bool} {c : Char} {r rest : Text}
    {token : TagToken} (h : tagToken kind outside c r = .ok (token, rest)) :
    rest.length ≤ r.length := by
  unfold tagToken at h
  split at h
  · next heq =>
    split at heq
    · simp only [Except.ok.injEq, Prod.mk.injEq] at h
      exact h.2 ▸ tagEnd?_length heq
    · simp at heq
  · split at h
    · split at h
      · simp at h
      · next hq =>
        split at h
        · simp only [Except.ok.injEq, Prod.mk.injEq] at h
          have := Quoted.source?_length hq
          rw [← h.2]
          omega
        · simp at h
    · split at h
      · split at h
        · next hn =>
          simp only [Except.ok.injEq, Prod.mk.injEq] at h
          have := numberToken_length c r
          rw [hn] at this
          exact h.2 ▸ this
        · simp at h
      · split at h
        · next hm =>
          simp only [Except.ok.injEq, Prod.mk.injEq] at h
          exact h.2 ▸ Mark.ofText?_length hm
        · split at h
          · simp only [Except.ok.injEq, Prod.mk.injEq] at h
            exact h.2 ▸ Text.length_dropWhile_le ..
          · simp at h

theorem nextToken_length {kind : TagKind} {outside : Bool} {t place rest : Text}
    {token : TagToken} (h : nextToken kind outside t = .ok (some (place, token, rest))) :
    rest.length < t.length := by
  have hle := Text.length_dropWhile_le isTagBlank t
  rw [nextToken] at h
  split at h
  · simp at h
  · next heq =>
    rw [heq] at hle
    split at h
    · simp at h
    · next htok =>
      have := tagToken_length htok
      simp only [Except.ok.injEq, Option.some.injEq, Prod.mk.injEq] at h
      simp only [List.length_cons] at hle
      rw [← h.2.2]
      omega

/-! ## Whole tags -/

/-- How the inside of a tag ends. -/
inductive TagEnding where
  /-- with the end of the tag, which is the last token; `trim` if white space behind it
  is dropped -/
  | closed (trim : Bool) (rest : Text)
  /-- with the end of the template -/
  | missing
  /-- where no token can be read -/
  | broken (e : Misreading)
  deriving DecidableEq, Repr

/-- The tokens of a tag up to its end, each with the text from it on, and how they end.
`balance` is the number of open brackets. -/
def tagTokens (kind : TagKind) (balance : Int) (t : Text) : List (Text × TagToken) × TagEnding :=
  match _h : nextToken kind (balance = 0) t with
  | .error e => ([], .broken e)
  | .ok none => ([], .missing)
  | .ok (some (place, .tagEnd k trim, rest)) => ([(place, .tagEnd k trim)], .closed trim rest)
  | .ok (some (place, token, rest)) =>
    let (tokens, ending) := tagTokens kind (balance + token.balance) rest
    ((place, token) :: tokens, ending)
termination_by t.length
decreasing_by exact nextToken_length _h

/-- What stands behind a tag is shorter than its inside and all behind it. -/
theorem tagTokens_length {kind : TagKind} {balance : Int} {t rest : Text}
    {tokens : List (Text × TagToken)} {trim : Bool}
    (h : tagTokens kind balance t = (tokens, .closed trim rest)) : rest.length < t.length := by
  fun_induction tagTokens kind balance t generalizing tokens with
  | case1 => simp at h
  | case2 => simp at h
  | case3 balance t place k trim' rest' hn =>
    simp only [Prod.mk.injEq, TagEnding.closed.injEq] at h
    rw [← h.2.2]
    exact nextToken_length hn
  | case4 balance t place token rest' hn _ tokens' ending heq ih =>
    simp only [Prod.mk.injEq] at h
    have h1 := ih (by rw [heq, h.2])
    have h2 := nextToken_length (by assumption)
    omega

end TableScaffold.Template
