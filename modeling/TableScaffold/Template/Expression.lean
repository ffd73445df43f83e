import TableScaffold.Template.Tag

/-!
# The form of an expression

A slot holds an expression: operands with operators between them, where an operand may
have steps, calls and filters behind it, and brackets hold further expressions.  Only
the form is checked, token by token: a reader knows which brackets are open and what it
has read last, and that decides what may come next.
-/

namespace TableScaffold.Template

/-- The words that stand for a value of their own, with its text. -/
def constants : List (Text × Text) :=
  [("true", "True"), ("True", "True"), ("false", "False"), ("False", "False"),
    ("none", "None"), ("None", "None")].map fun p => (p.1.toList, p.2.toList)

/-! ## What has been read -/

/-- An open bracket, or the part of it that is being read. -/
inductive Bracket where
  /-- a parenthesis around one expression -/
  | group
  /-- a parenthesis around several expressions -/
  | tuple
  | list
  /-- the key of a pair between braces -/
  | key
  /-- the value of a pair between braces -/
  | value
  /-- an index; `colons` have been read of it -/
  | index (colons : Nat)
  | arguments
  /-- an argument behind its name -/
  | namedArgument
  deriving DecidableEq, Repr

namespace Bracket

/-- What closes a bracket. -/
def closing : Bracket → Mark
  | list => .closeBracket
  | index _ => .closeBracket
  | key => .closeBrace
  | value => .closeBrace
  | _ => .closeParenthesis

/-- The mark that is missed behind an expression in a bracket. -/
def wanted : Bracket → Mark
  | group => .closeParenthesis
  | key => .colon
  | index _ => .closeBracket
  | _ => .comma

/-- Whether a bracket can be closed where an expression could begin. -/
def closesEmpty : Bracket → Bool
  | value => false
  | namedArgument => false
  | index colons => colons > 0
  | _ => true

/-- Whether a bracket can be closed behind an expression in it. -/
def closesBehind (b : Bracket) : Bool := b ≠ key

/-- What a bracket is read as behind a mark that separates expressions in it. -/
def behind? (b : Bracket) (m : Mark) : Option Bracket :=
  match b, m with
  | group, .comma => some tuple
  | tuple, .comma => some tuple
  | list, .comma => some list
  | key, .colon => some value
  | value, .comma => some key
  | index colons, .colon => if colons < 2 then some (index (colons + 1)) else none
  | arguments, .comma => some arguments
  | namedArgument, .comma => some arguments
  | _, _ => none

/-- The number of levels that a bracket adds: one for the expression in it, and one
more if the bracket is an operand itself. -/
def levels : Bracket → Nat
  | index _ => 1
  | arguments => 1
  | namedArgument => 0
  | _ => 2

end Bracket

/-- A complete operand, by what may follow it. -/
inductive Operand where
  /-- a name that is all of its expression so far -/
  | word
  /-- a quoted text, to which further ones are joined -/
  | quoted
  /-- any other operand, behind which steps may come -/
  | plain
  /-- the name of a filter, behind which arguments may come -/
  | filter
  /-- the name of a test, behind which arguments or one operand may come -/
  | test
  /-- a filter or a test with its arguments -/
  | complete
  deriving DecidableEq, Repr

/-- What may come next. -/
inductive Stage where
  /-- an operand; `negatable` if the word `not` may stand before it, and `first` if
  nothing of its expression has been read -/
  | wanted (negatable first : Bool)
  /-- the name of a member, behind a dot -/
  | member
  /-- the name of a filter -/
  | filter
  /-- the name of a test; `negatable` if the word `not` may stand before it -/
  | test (negatable : Bool)
  /-- the word `in`, behind the word `not` -/
  | membership
  /-- what may follow an operand -/
  | behind (o : Operand)
  deriving DecidableEq, Repr

/-- An open bracket, with what has to be known again when it is closed. -/
structure Frame where
  bracket : Bracket
  /-- the operand that the closed bracket completes -/
  completes : Operand
  /-- whether the word `else` could follow outside -/
  elseOutside : Bool
  deriving DecidableEq, Repr

/-- What a reader of an expression knows. -/
structure Reader where
  stage : Stage := .wanted true true
  /-- the open brackets, the innermost first -/
  frames : List Frame := []
  /-- whether the word `else` may follow -/
  elseAllowed : Bool := false
  /-- the text from the token before on -/
  last : Text
  deriving DecidableEq, Repr

namespace Reader

/-! ## Depth -/

/-- The number of levels that may lie in each other. -/
def greatestDepth : Nat := 150

/-- The levels of the expression that is being read. -/
def depth (s : Reader) : Nat := s.frames.foldr (fun f n => f.bracket.levels + n) 1

/-! ## Steps -/

/-- The reader behind a token at `place`. -/
def moveTo (s : Reader) (place : Text) (stage : Stage) : Reader :=
  { s with stage, last := place }

/-- The reader behind an opening bracket. -/
def openBracket (s : Reader) (place : Text) (b : Bracket) (completes : Operand) : Reader :=
  { stage := .wanted true true, frames := ⟨b, completes, s.elseAllowed⟩ :: s.frames,
    elseAllowed := false, last := place }

/-- The reader behind the end of its innermost bracket `f`; `outer` are the others. -/
def closeBracket (place : Text) (f : Frame) (outer : List Frame) : Reader :=
  { stage := .behind f.completes, frames := outer, elseAllowed := f.elseOutside, last := place }

/-- The reader behind a mark that separates expressions; the innermost bracket is read
as `b` from here on. -/
def separate (place : Text) (b : Bracket) (f : Frame) (outer : List Frame) : Reader :=
  { stage := .wanted true true, frames := { f with bracket := b } :: outer,
    elseAllowed := false, last := place }

/-- An operand that begins with a token. -/
def readOperand (s : Reader) (place : Text) (token : TagToken) : Except Misreading Reader :=
  if s.depth + 1 > greatestDepth then .error (.tooDeep, s.last)
  else
    match token with
    | .name word =>
      let isAlone := s.stage = .wanted true true && (constants.lookup word).isNone
      .ok (s.moveTo place (.behind (if isAlone then .word else .plain)))
    | .string _ => .ok (s.moveTo place (.behind .quoted))
    | .integer _ _ => .ok (s.moveTo place (.behind .plain))
    | .float _ => .ok (s.moveTo place (.behind .plain))
    | .mark .openParenthesis => .ok (s.openBracket place .group .plain)
    | .mark .openBracket => .ok (s.openBracket place .list .plain)
    | .mark .openBrace => .ok (s.openBracket place .key .plain)
    | token => .error (.unexpected token.found, place)

/-- What comes where an operand is wanted: the words and marks before an operand, the
end of an empty bracket, or an operand. -/
def readWanted (s : Reader) (negatable first : Bool) (place : Text) (token : TagToken) :
    Except Misreading Reader :=
  match token, s.frames with
  | .mark m, f :: outer =>
    if first && f.bracket.closesEmpty && m = f.bracket.closing then
      .ok (closeBracket place f outer)
    else if first && m = .colon && f.bracket = .index 0 then
      .ok (separate place (.index 1) f outer)
    else if first && m = .colon && f.bracket = .index 1 then
      .ok (separate place (.index 2) f outer)
    else if first && f.bracket = .arguments && (m = .times || m = .power) then
      .ok (s.moveTo place (.wanted true false))
    else readSign m
  | .mark m, [] => readSign m
  | .name word, _ =>
    if s.depth > greatestDepth then .error (.tooDeep, s.last)
    else if negatable && word = "not".toList then .ok (s.moveTo place (.wanted true false))
    else s.readOperand place token
  | _, _ => s.readOperand place token
where
  /-- A minus sign before an operand, or the operand itself. -/
  readSign (m : Mark) : Except Misreading Reader :=
    if s.depth > greatestDepth then .error (.tooDeep, s.last)
    else if m = .minus then .ok (s.moveTo place (.wanted false false))
    else s.readOperand place (.mark m)

/-- What is missed where an expression could end. -/
def missed (s : Reader) : Wanted :=
  match s.frames with
  | [] => .slotEnd
  | f :: _ => .mark f.bracket.wanted

/-- What comes behind a whole expression: a mark that separates it from the next one,
or the end of the bracket around it. -/
def readSeparator (s : Reader) (o : Operand) (place : Text) (token : TagToken) :
    Except Misreading Reader :=
  let misfit : Misreading := (.unexpectedInstead token.found s.missed, place)
  match token, s.frames with
  | .mark m, f :: outer =>
    match f.bracket.behind? m with
    | some b => .ok (separate place b f outer)
    | none =>
      if m = f.bracket.closing && f.bracket.closesBehind then .ok (closeBracket place f outer)
      else if m = .assign && f.bracket = .arguments && o = .word then
        .ok { separate place .namedArgument f outer with stage := .wanted true false }
      else .error misfit
  | _, _ => .error misfit

/-- Whether an operand may follow the name of a test as its argument. -/
def beginsArgument (token : TagToken) : Bool :=
  match token with
  | .name word => !(["and", "or", "else", "is"].map String.toList).contains word
  | .string _ => true
  | .integer _ _ => true
  | .float _ => true
  | .mark m => [Mark.plus, .minus, .openBracket, .openBrace].contains m
  | .tagEnd _ _ => false

/-- Whether the words for a choice may follow: everywhere but in a named argument. -/
def choiceAllowed (s : Reader) : Bool :=
  match s.frames with
  | [] => true
  | f :: _ => f.bracket ≠ .namedArgument

/-- A word behind an operand. -/
def readWord (s : Reader) (o : Operand) (place word : Text) : Except Misreading Reader :=
  if word = "and".toList || word = "or".toList then .ok (s.moveTo place (.wanted true false))
  else if word = "in".toList then .ok (s.moveTo place (.wanted false false))
  else if word = "not".toList then .ok (s.moveTo place .membership)
  else if word = "is".toList then .ok (s.moveTo place (.test true))
  else if word = "if".toList && s.choiceAllowed then
    .ok { s.moveTo place (.wanted true false) with elseAllowed := true }
  else if word = "else".toList && s.elseAllowed then
    .ok { s.moveTo place (.wanted true false) with elseAllowed := false }
  else s.readSeparator o place (.name word)

/-- A mark behind an operand. -/
def readMark (s : Reader) (o : Operand) (place : Text) (m : Mark) : Except Misreading Reader :=
  let steps := o = .word || o = .quoted || o = .plain
  if m = .pipe then .ok (s.moveTo place .filter)
  else if m = .openParenthesis && (o = .filter || o = .test) then
    .ok (s.openBracket place .arguments .complete)
  else if m = .openParenthesis && steps then .ok (s.openBracket place .arguments .plain)
  else if m = .openBracket && steps then .ok (s.openBracket place (.index 0) .plain)
  else if m = .dot && steps then .ok (s.moveTo place .member)
  else if m.isOperator then .ok (s.moveTo place (.wanted false false))
  else s.readSeparator o place (.mark m)

/-- What follows an operand. -/
def readBehind (s : Reader) (o : Operand) (place : Text) (token : TagToken) :
    Except Misreading Reader :=
  if o = .test && beginsArgument token then s.readWanted false false place token
  else
    match token with
    | .name word => s.readWord o place word
    | .mark m => s.readMark o place m
    | .string _ =>
      if o = .quoted then .ok (s.moveTo place (.behind .quoted)) else s.readSeparator o place token
    | token => s.readSeparator o place token

/-- The reader behind one more token. -/
def read (s : Reader) (place : Text) (token : TagToken) : Except Misreading Reader :=
  match s.stage, token with
  | .wanted negatable first, token => s.readWanted negatable first place token
  | .behind o, token => s.readBehind o place token
  | .member, .name _ => .ok (s.moveTo place (.behind .plain))
  | .filter, .name _ => .ok (s.moveTo place (.behind .filter))
  | .test negatable, .name word =>
    if negatable && word = "not".toList then .ok (s.moveTo place (.test false))
    else .ok (s.moveTo place (.behind .test))
  | .membership, .name word =>
    if word = "in".toList then .ok (s.moveTo place (.wanted false false))
    else .error (.unexpectedInstead .name .membership, place)
  | .membership, token => .error (.unexpectedInstead token.found .membership, place)
  | _, token => .error (.unexpectedInstead token.found .name, place)

/-! ## Ends -/

/-- What is wrong with a template that ends here. -/
def unfinished (s : Reader) : Misreading :=
  match s.stage with
  | .wanted _ _ =>
    if s.depth + 1 > greatestDepth then (.tooDeep, s.last)
    else (.unexpectedInstead .endOfInput .expression, s.last)
  | .behind _ => (.unexpectedInstead .endOfInput s.missed, s.last)
  | .membership => (.unexpectedInstead .endOfInput .membership, s.last)
  | _ => (.unexpectedInstead .endOfInput .name, s.last)

/-- What is wrong where no token can be read.  Behind a quoted text it is not told, and
the template seems to end; a bad escape has the place of the token before. -/
def broken (s : Reader) (e : Misreading) : Misreading :=
  if s.stage = .behind .quoted then s.unfinished
  else if e.1 = .badEscape then (e.1, s.last)
  else e

/-- Whether the expression is complete. -/
def isComplete (s : Reader) : Bool :=
  match s.stage with
  | .behind _ => s.frames.isEmpty
  | _ => false

/-- Checks the tokens of a slot, of which the last one is its end. -/
def check (s : Reader) (ending : TagEnding) : List (Text × TagToken) → Except Misreading Unit
  | [] =>
    match ending with
    | .closed _ _ => .ok ()
    | .missing => .error s.unfinished
    | .broken e => .error (s.broken e)
  | (place, token) :: rest =>
    match token with
    | .tagEnd _ _ =>
      if s.isComplete then .ok ()
      else
        match s.read place token with
        | .error e => .error e
        | .ok s => s.check ending rest
    | token =>
      match s.read place token with
      | .error e => .error e
      | .ok s => s.check ending rest

end Reader

end TableScaffold.Template
