import TableScaffold.Toml.Token

/-!
# The form of a configuration file

A file is a sequence of lines: a key with a value, or the header of a table.  This
module finds the form only; keys and scalars are kept as written and are read
later.  So a fault of form is found before any fault of a key or a scalar, wherever
they stand.  Of a fault, only its offset is told.
-/

namespace TableScaffold.Toml

/-- A key or a scalar as written, with the offset at which it begins. -/
structure Written where
  kind : TokenKind
  start : Nat
  text : Text
  deriving DecidableEq, Repr

/-- A token as a key or a scalar. -/
def Written.ofToken (t : Token) : Written := ⟨t.kind, t.start, t.text⟩

/-- The offset behind a key or a scalar. -/
def Written.stop (w : Written) : Nat := w.start + w.text.length

/-- A key or a scalar that is missing. -/
def Written.missing (start : Nat) : Written := ⟨.bare, start, []⟩

/-- A value whose scalars are kept as written. -/
inductive RawValue where
  | scalar (w : Written)
  | list (start : Nat) (items : List RawValue)
  | table (start : Nat) (pairs : List (List Written × RawValue))

/-- A line that says something. -/
inductive Line where
  | pair (key : List Written) (value : RawValue)
  | header (ofArray : Bool) (start : Nat) (key : List Written)

/-- What a reader knows of the whole file. -/
structure Extent where
  /-- the offset behind the last character -/
  stop : Nat
  /-- the offset behind the last token that is not layout -/
  lastStop : Nat

/-- Where the first of the tokens begins. -/
def Extent.offset (x : Extent) : List Token → Nat
  | [] => x.stop
  | t :: _ => t.start

/-- The tokens behind spaces and tabs. -/
def dropBlanks : List Token → List Token
  | [] => []
  | t :: r => if t.kind = .blank then dropBlanks r else t :: r

/-- Whether a token can be a part of a key. -/
def isKeyPart (k : TokenKind) : Bool :=
  [TokenKind.literal, .basic, .longLiteral, .longBasic, .bare].contains k

/-- Whether a token is a string. -/
def isString (k : TokenKind) : Bool :=
  [TokenKind.literal, .basic, .longLiteral, .longBasic].contains k

/-! ## Keys -/

/-- The parts of a key, and whether none of them is missing where the key ends.
`wanted` tells whether a part has to come next. -/
def keyParts (x : Extent) (wanted : Bool) : List Token → List Written × Bool × List Token
  | [] => if wanted then ([.missing x.stop], false, []) else ([], true, [])
  | t :: r =>
    if t.kind = .blank then keyParts x wanted r
    else if t.kind = .dot then
      let (parts, complete, rest) := keyParts x true r
      (if wanted then .missing t.start :: parts else parts, complete, rest)
    else if !wanted then ([], true, t :: r)
    else if isKeyPart t.kind then
      let (parts, complete, rest) := keyParts x false r
      (.ofToken t :: parts, complete, rest)
    else ([.missing t.start], false, t :: r)

/-! ## Layout -/

/-- Whether a comment may hold a character. -/
def isCommentCharacter (c : Char) : Bool := c = '\t' || (32 ≤ c.toNat && c.toNat ≠ 127)

/-- The offset of a fault in layout: a carriage return without a line feed, or a
control character in a comment. -/
def layoutFault? (t : Token) : Option Nat :=
  if t.kind = .newline then (if t.text = ['\r'] then some t.stop else none)
  else if t.kind = .comment then
    (t.text.findIdx? (!isCommentCharacter ·)).map (t.start + ·)
  else none

/-- Accepts a token of layout that has no fault. -/
def checkLayout (t : Token) : Except Nat Unit :=
  match layoutFault? t with
  | none => .ok ()
  | some offset => .error offset

/-! ## Values -/

/-- The rest of a bare scalar: runs and dots, and single blanks before runs. -/
def bareRest : List Token → Text × List Token
  | [] => ([], [])
  | [t] => if t.kind = .bare || t.kind = .dot then (t.text, []) else ([], [t])
  | t :: u :: r =>
    if t.kind = .bare || t.kind = .dot || (t.kind = .blank && u.kind = .bare) then
      (t.text ++ (bareRest (u :: r)).1, (bareRest (u :: r)).2)
    else ([], t :: u :: r)

/-- A reader of a value, which answers the value and the tokens behind it. -/
abbrev ValueReader := List Token → Except Nat (RawValue × List Token)

/-- The items of a list up to its end.  `separated` tells whether an item may come
next; behind an item a comma has to come first.  The fuel bounds the number of
tokens, each step takes at least one. -/
def items (x : Extent) (item : ValueReader) :
    Nat → Bool → List Token → Except Nat (List RawValue × List Token)
  | 0, _, ts => .error (x.offset ts)
  | _ + 1, _, [] => .error x.lastStop
  | fuel + 1, separated, t :: r =>
    if t.isLayout then do
      checkLayout t
      items x item fuel separated r
    else if t.kind = .closeBracket then .ok ([], r)
    else if t.kind = .comma then
      if separated then .error t.start else items x item fuel true r
    else if t.kind = .equals || !separated then .error t.start
    else do
      let (v, rest) ← item (t :: r)
      let (vs, rest) ← items x item fuel false rest
      return (v :: vs, rest)

/-- What has to come next between the braces of an inline table. -/
inductive PairStep where
  | key
  /-- the equals sign behind a key -/
  | equals (key : List Written)
  /-- the value of a key -/
  | value (key : List Written)
  | comma

/-- The pairs of an inline table up to its end.  Layout may stand between any two
of its parts.  The fuel bounds the number of tokens, each step takes at least one. -/
def pairs (x : Extent) (pairValue : ValueReader) :
    Nat → PairStep → List Token → Except Nat (List (List Written × RawValue) × List Token)
  | 0, _, ts => .error (x.offset ts)
  | _ + 1, _, [] => .error x.lastStop
  | fuel + 1, step, t :: r =>
    if t.isLayout then do
      checkLayout t
      pairs x pairValue fuel step r
    else
      match step with
      | .key =>
        if t.kind = .closeBrace then .ok ([], r)
        else if t.kind = .equals then
          pairs x pairValue fuel (.value [.missing t.start]) r
        else if isKeyPart t.kind || t.kind = .dot then
          let (key, _, rest) := keyParts x true (t :: r)
          pairs x pairValue fuel (.equals key) rest
        else .error t.start
      | .equals key =>
        if t.kind = .equals then pairs x pairValue fuel (.value key) r else .error t.start
      | .value key =>
        if t.kind = .comma then .error t.start
        else do
          let (v, rest) ← pairValue (t :: r)
          let (more, rest) ← pairs x pairValue fuel .comma rest
          return ((key, v) :: more, rest)
      | .comma =>
        if t.kind = .comma then pairs x pairValue fuel .key r
        else if t.kind = .closeBrace then .ok ([], r)
        else .error t.start

/-- A scalar that begins with a token, or a missing one. -/
def scalar (t : Token) (r : List Token) : Except Nat (RawValue × List Token) :=
  if isString t.kind then .ok (.scalar (.ofToken t), r)
  else if t.kind = .bare || t.kind = .dot then
    .ok (.scalar ⟨.bare, t.start, t.text ++ (bareRest r).1⟩, (bareRest r).2)
  else if t.kind = .comment || t.kind = .comma || t.kind = .newline then
    .ok (.scalar (.missing t.start), t :: r)
  else .error t.start

/-- A value, within which lists and inline tables may lie in each other down to the
given depth. -/
def value (x : Extent) : Nat → ValueReader
  | depth, ts =>
    match dropBlanks ts with
    | [] => .ok (.scalar (.missing x.stop), [])
    | t :: r =>
      match depth with
      | 0 => if t.kind = .openBracket || t.kind = .openBrace then .error t.start else scalar t r
      | depth + 1 =>
        if t.kind = .openBracket then do
          let (vs, rest) ← items x (value x depth) (r.length + 1) true r
          return (.list t.start vs, rest)
        else if t.kind = .openBrace then do
          let (ps, rest) ← pairs x (value x depth) (r.length + 1) .key r
          return (.table t.start ps, rest)
        else scalar t r

/-- How deep lists and inline tables may lie in each other. -/
def greatestDepth : Nat := 80

/-! ## Lines -/

/-- The tokens behind the end of a line. -/
def lineEnd : List Token → Except Nat (List Token)
  | [] => .ok []
  | t :: r =>
    if t.isLayout then do
      checkLayout t
      if t.kind = .newline then return r else lineEnd r
    else .error t.start

/-- A value behind the equals sign of a line. -/
def pairLine (x : Extent) (key : List Written) (ts : List Token) :
    Except Nat (Line × List Token) := do
  let (v, rest) ← value x greatestDepth ts
  return (.pair key v, ← lineEnd rest)

/-- A line that begins with a key. -/
def keyLine (x : Extent) (ts : List Token) : Except Nat (Line × List Token) :=
  let (key, _, rest) := keyParts x true ts
  match rest with
  | [] => .error x.stop
  | t :: r => if t.kind = .equals then pairLine x key r else .error t.start

/-- The tokens behind the current line. -/
def dropLine : List Token → Except Nat (List Token)
  | [] => .ok []
  | t :: r =>
    if t.kind = .newline then do
      checkLayout t
      return r
    else dropLine r

/-- The end of a header behind its first closing bracket, which ends at `offset`. -/
def headerEnd (ofArray : Bool) (offset : Nat) (ts : List Token) : Except Nat (List Token) :=
  if !ofArray then lineEnd ts
  else
    match ts with
    | [] => .error offset
    | t :: r => if t.kind = .closeBracket then lineEnd r else .error offset

/-- The offset behind a closing bracket that comes next, and the tokens behind it. -/
def closed? : List Token → Option (Nat × List Token)
  | [] => none
  | t :: r => if t.kind = .closeBracket then some (t.stop, r) else none

/-- A header behind its first bracket, which begins at `start`. -/
def headerLine (x : Extent) (start : Nat) (ts : List Token) : Except Nat (Line × List Token) := do
  let ofArray := (ts.head?.map (·.kind)) = some .openBracket
  let (key, complete, rest) := keyParts x true (if ofArray then ts.tail else ts)
  let header := Line.header ofArray start key
  match closed? rest with
  | some (offset, rest) => return (header, ← headerEnd ofArray offset rest)
  | none =>
    -- a missing key is a fault of the key, which is told when the key is read
    if complete then .error ((key.getLast?.map (·.stop)).getD start)
    else return (header, ← dropLine rest)

/-- The line that begins with `t`. -/
def line (x : Extent) (t : Token) (r : List Token) : Except Nat (Line × List Token) :=
  if t.kind = .openBracket then headerLine x t.start r
  else if isKeyPart t.kind || t.kind = .dot then keyLine x (t :: r)
  else if t.kind = .equals then pairLine x [.missing t.start] r
  else .error t.start

/-- The lines of a file.  The fuel bounds the number of tokens, each step takes at
least one. -/
def linesOf (x : Extent) : Nat → List Token → Except Nat (List Line)
  | 0, _ => .ok []
  | _ + 1, [] => .ok []
  | fuel + 1, t :: r =>
    if t.isLayout then do
      checkLayout t
      linesOf x fuel r
    else do
      let (l, rest) ← line x t r
      return l :: (← linesOf x fuel rest)

/-- The lines that tokens make, or the offset of their first fault. -/
def linesOfTokens (ts : List Token) : Except Nat (List Line) :=
  let stop := (ts.getLast?.map (·.stop)).getD 0
  let lastStop := (((ts.filter (!·.isLayout)).getLast?).map (·.stop)).getD 0
  linesOf ⟨stop, lastStop⟩ (ts.length + 1) ts

end TableScaffold.Toml
