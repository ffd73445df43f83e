import Mathlib.Data.Nat.PSub
import Mathlib.Logic.Relation
import TableScaffold.Table.Grammar
import TableScaffold.Proofs.Text.Slice

set_option autoImplicit false

/-!
# Reading a table with a cursor

The grammar of table definitions, read by a cursor that stands on one token at a time.
A state holds where the cursor stands, what is read so far and what is read next, and
`step` goes on by one look at the tokens: it moves the cursor on by one token, or leaves
it and goes over to something else.  Where the numbers of the machine could go wrong, a
step can be trapped (`Trap`): a depth that falls below zero, an index that is out of
range, a slice that is refused.
-/

namespace TableScaffold.Cursor

open Grammar (constraintKeywords headerKeywords tableConstraintKeywords)
open Sql (Placed Token)

/-! ## States -/

/-- A column of which the first words and constraints are read. -/
structure Pending where
  name : Text
  words : List Text := []
  constraints : List Constraint := []
  deriving DecidableEq, Repr

namespace Pending

/-- A column with one more constraint. -/
def add (p : Pending) (c : Constraint) : Pending := { p with constraints := p.constraints ++ [c] }

/-- A column with one more word of its type. -/
def addWord (p : Pending) (word : Text) : Pending := { p with words := p.words ++ [word] }

/-- A column of which everything is read. -/
def column (p : Pending) : Column := ⟨p.name, Text.join [' '] p.words, p.constraints⟩

end Pending

/-- What a qualified name stands for, with the column that it is read within. -/
inductive NameOf where
  | table
  | reference (column : Pending)
  deriving DecidableEq, Repr

/-- What a qualified name stands for. -/
def NameOf.use : NameOf → NameUse
  | table => .table
  | reference _ => .referencedTable

/-- Where a group in parentheses stands. -/
inductive Around where
  /-- behind the first words of a type -/
  | type (column : Pending)
  /-- among the constraints of a column -/
  | clauses (column : Pending)
  /-- behind the name of a referenced table -/
  | reference (column : Pending) (table : Text) (referenced : Option Text)
  /-- in a constraint of the whole table -/
  | tableConstraint
  deriving DecidableEq, Repr

/-- What no number of the machine may do. -/
inductive Trap where
  /-- fall below zero -/
  | belowZero
  /-- be the index of no token -/
  | outOfRange
  /-- bound a slice that is refused -/
  | noSlice
  deriving DecidableEq, Repr

/-- What is read next. -/
inductive Point where
  /-- the words that begin a definition, wherever they are -/
  | header
  /-- the first part of a name -/
  | name (of : NameOf)
  /-- a period behind the part of a name that was read last -/
  | behindName (of : NameOf) (part : Text)
  /-- the part of a name behind a period -/
  | namePart (of : NameOf)
  /-- the parenthesis behind the name of the table -/
  | columnList
  /-- an entry, or the end of the column list -/
  | entries
  | columnName
  /-- a word of a type; `again` if a group stands between it and the first ones -/
  | typeWords (column : Pending) (again : Bool)
  /-- a constraint of a column, or the end of its entry -/
  | clauses (column : Pending)
  /-- the second keyword of a constraint, if it follows -/
  | second (column : Pending) (keyword : String) (c : Constraint)
  /-- the name of a constraint, if it follows -/
  | constraintName (column : Pending)
  /-- a token of a default expression that began at `first`, within `depth` groups -/
  | expression (column : Pending) (first depth : Nat)
  /-- the text of an expression that began at `first` and has ended -/
  | expressionText (column : Pending) (first : Nat)
  /-- a group behind the name of a referenced table, if one follows -/
  | referenced (column : Pending) (table : Text)
  | openGroup (around : Around)
  /-- a token within `depth` groups -/
  | group (around : Around) (depth : Nat)
  /-- a token of a constraint of the whole table, or the end of its entry -/
  | tableConstraint
  /-- what stands behind an entry -/
  | separator
  | finished
  | failed (fault : GrammarFault)
  | noHeader
  | trapped (trap : Trap)
  deriving DecidableEq, Repr

/-- A cursor at its place, with the name of the table and the columns read so far. -/
structure State where
  pos : Nat
  name : Text
  columns : List Column
  point : Point
  deriving DecidableEq, Repr

namespace State

/-- The state in which reading begins. -/
def start : State := ⟨0, [], [], .header⟩

/-- Reads something else at the same token. -/
def stay (s : State) (p : Point) : State := { s with point := p }

/-- Moves on by one token. -/
def move (s : State) (p : Point) : State := { s with pos := s.pos + 1, point := p }

/-- Gives up at the same token. -/
def fail (s : State) (fault : GrammarFault) : State := s.stay (.failed fault)

/-- Adds a column of which everything is read. -/
def endColumn (s : State) (c : Pending) : State :=
  { s with columns := s.columns ++ [c.column], point := .separator }

/-- Goes on behind a qualified name. -/
def endName (s : State) (name : Text) : NameOf → State
  | .table => { s with name := name, point := .columnList }
  | .reference c => s.stay (.referenced c name)

/-- Goes on behind a group in parentheses. -/
def endGroup (s : State) : Around → State
  | .type c => s.stay (.typeWords c true)
  | .clauses c => s.stay (.clauses c)
  | .reference c table referenced => s.stay (.clauses (c.add (.references table referenced)))
  | .tableConstraint => s.stay .tableConstraint

end State

/-! ## Steps -/

section Steps

variable (source : Text) (ts : List Placed)

/-- The token at a place. -/
def token? (pos : Nat) : Option Token := ts[pos]?.map Placed.token

/-- The word at a place, quoted or not, if one stands there. -/
def word? (pos : Nat) : Option Text :=
  match token? ts pos with
  | some (.word value _) => some value
  | _ => none

/-- Whether the words of a header stand at a place. -/
def isHeaderAt (pos : Nat) : Bool :=
  headerKeywords.zipIdx.all fun k => (token? ts (pos + k.2)).any (·.isKeyword k.1)

/-- The place behind the first header. -/
def behindHeader? : Option Nat :=
  ((List.range ts.length).find? (isHeaderAt ts)).map (· + headerKeywords.length)

/-- The byte offsets between which an expression stands that began at one place and ended
in front of another one. -/
def bounds? (first pos : Nat) : Option (Nat × Nat) :=
  match ts[first]?, pos.ppred.bind (ts[·]?) with
  | some t, some u => some (Text.byteOffset source t.first, Text.byteOffset source u.last)
  | _, _ => none

/-- Looks for the header. -/
def headerStep (s : State) : State :=
  match behindHeader? ts with
  | none => s.stay .noHeader
  | some pos => { s with pos := pos, point := .name .table }

/-- Reads a word, quoted or not. -/
def wordStep (s : State) (next : Text → Point) (fault : GrammarFault) : State :=
  match word? ts s.pos with
  | none => s.fail fault
  | some value => s.move (next value)

/-- Reads an opening parenthesis. -/
def openingStep (s : State) (next : Point) (fault : GrammarFault) : State :=
  if token? ts s.pos = some .leftParen then s.move next else s.fail fault

/-- Begins an entry, unless the column list ends. -/
def entryStep (s : State) : State :=
  match token? ts s.pos with
  | none => s.fail .unterminatedList
  | some t =>
    if t = .rightParen then s.move .finished
    else if t.isAnyKeyword tableConstraintKeywords then s.stay .tableConstraint
    else s.stay .columnName

/-- Goes on behind the words of a type. -/
def endType (s : State) (c : Pending) (again : Bool) : State :=
  if again then s.stay (.clauses c)
  else if c.words = [] then s.fail (.expectedType c.name)
  else if token? ts s.pos = some .leftParen then s.stay (.openGroup (.type c))
  else s.stay (.clauses c)

/-- Reads a word of a type. -/
def typeStep (s : State) (c : Pending) (again : Bool) : State :=
  match token? ts s.pos with
  | some (.word value quoted) =>
    if (Token.word value quoted).isAnyKeyword constraintKeywords then endType ts s c again
    else s.move (.typeWords (c.addWord value) again)
  | _ => endType ts s c again

/-- Reads a constraint, or a token that is none. -/
def clauseStep (s : State) (c : Pending) : State :=
  match token? ts s.pos with
  | none => s.endColumn c
  | some t =>
    let keyword (k : String) : Bool := t.isKeyword k.toList
    if t = .comma || t = .rightParen then s.endColumn c
    else if t = .leftParen then s.stay (.openGroup (.clauses c))
    else if keyword "NOT" then s.move (.second c "NULL" .notNull)
    else if keyword "NULL" then s.move (.clauses (c.add .null))
    else if keyword "PRIMARY" then s.move (.second c "KEY" .primaryKey)
    else if keyword "UNIQUE" then s.move (.clauses (c.add .unique))
    else if keyword "DEFAULT" then s.move (.expression c (s.pos + 1) 0)
    else if keyword "REFERENCES" then s.move (.name (.reference c))
    else if keyword "CONSTRAINT" then s.move (.constraintName c)
    else s.move (.clauses c)

/-- Reads a token of a default expression. -/
def expressionStep (s : State) (c : Pending) (first depth : Nat) : State :=
  match token? ts s.pos with
  | none => s.stay (.expressionText c first)
  | some .leftParen => s.move (.expression c first (depth + 1))
  | some .rightParen =>
    if depth = 0 then s.stay (.expressionText c first)
    else
      match depth.ppred with
      | none => s.stay (.trapped .belowZero)
      | some depth => s.move (.expression c first depth)
  | some t =>
    if depth = 0 && (t = .comma || decide (first < s.pos) && t.isAnyKeyword constraintKeywords) then
      s.stay (.expressionText c first)
    else s.move (.expression c first depth)

/-- Takes the text of a default expression. -/
def textStep (s : State) (c : Pending) (first : Nat) : State :=
  if s.pos = first then s.fail .expectedExpression
  else
    match bounds? source ts first s.pos with
    | none => s.stay (.trapped .outOfRange)
    | some (low, high) =>
      match Text.slice? source low (max low high) with
      | none => s.stay (.trapped .noSlice)
      | some text => s.stay (.clauses (c.add (.default (Text.trim text))))

/-- Reads a token within groups. -/
def groupStep (s : State) (around : Around) (depth : Nat) : State :=
  if depth = 0 then s.endGroup around
  else
    match token? ts s.pos with
    | none => s.fail .unbalancedGroup
    | some .leftParen => s.move (.group around (depth + 1))
    | some .rightParen =>
      match depth.ppred with
      | none => s.stay (.trapped .belowZero)
      | some depth => s.move (.group around depth)
    | some _ => s.move (.group around depth)

/-- Reads a token of a constraint of the whole table. -/
def tableConstraintStep (s : State) : State :=
  match token? ts s.pos with
  | none => s.stay .separator
  | some t =>
    if t = .comma || t = .rightParen then s.stay .separator
    else if t = .leftParen then s.stay (.openGroup .tableConstraint)
    else s.move .tableConstraint

/-- Reads what stands behind an entry. -/
def separatorStep (s : State) : State :=
  match token? ts s.pos with
  | none => s.fail .unterminatedList
  | some .comma => s.move .entries
  | some .rightParen => s.move .finished
  | some _ => s.fail .expectedSeparator

/-- Goes on by one look at the tokens, unless reading has ended. -/
def step (s : State) : Option State :=
  match s.point with
  | .header => some (headerStep ts s)
  | .name of => some (wordStep ts s (.behindName of) (.expectedName of.use))
  | .behindName of part =>
    some (if token? ts s.pos = some .period then s.move (.namePart of) else s.endName part of)
  | .namePart of => some (wordStep ts s (.behindName of) (.expectedNameAfterPeriod of.use))
  | .columnList => some (openingStep ts s .entries .expectedColumnList)
  | .entries => some (entryStep ts s)
  | .columnName =>
    some (wordStep ts s (fun name => .typeWords { name := name } false) .expectedColumnName)
  | .typeWords c again => some (typeStep ts s c again)
  | .clauses c => some (clauseStep ts s c)
  | .second c keyword k =>
    some (if (token? ts s.pos).any (·.isKeyword keyword.toList) then s.move (.clauses (c.add k))
      else s.stay (.clauses c))
  | .constraintName c =>
    some (if (word? ts s.pos).isSome then s.move (.clauses c) else s.stay (.clauses c))
  | .expression c first depth => some (expressionStep ts s c first depth)
  | .expressionText c first => some (textStep source ts s c first)
  | .referenced c table =>
    some (if token? ts s.pos = some .leftParen then
        s.stay (.openGroup (.reference c table (word? ts (s.pos + 1))))
      else s.stay (.clauses (c.add (.references table none))))
  | .openGroup around => some (openingStep ts s (.group around 1) .expectedGroup)
  | .group around depth => some (groupStep ts s around depth)
  | .tableConstraint => some (tableConstraintStep ts s)
  | .separator => some (separatorStep ts s)
  | .finished | .failed _ | .noHeader | .trapped _ => none

/-- The place where a fault at the cursor is reported: its token, or else the end of the
last token of all. -/
def locationAt (pos : Nat) : Location :=
  match ts[pos]?, ts.getLast? with
  | some t, _ => t.first
  | none, some t => t.last
  | none, none => Location.start

/-- What comes of a definition when reading has ended. -/
def State.outcome? (s : State) : Option (Except SchemaError Table) :=
  match s.point with
  | .finished => some (.ok ⟨s.name, s.columns⟩)
  | .failed fault => some (.error (.malformed fault (locationAt ts s.pos)))
  | .noHeader => some (.error .tableNotFound)
  | _ => none

/-- One state follows another one. -/
def Steps (s s' : State) : Prop := step source ts s = some s'

/-- One state is reached from another one. -/
def Reaches : State → State → Prop := Relation.ReflTransGen (Steps source ts)

end Steps

/-! ## What the cursor looks at -/

section Looks

variable {ts : List Placed}

theorem lt_of_token? {pos : Nat} {t : Token} (h : token? ts pos = some t) : pos < ts.length := by
  obtain ⟨u, hu, -⟩ := Option.map_eq_some_iff.mp h
  exact (List.getElem?_eq_some_iff.mp hu).1

theorem token?_of_word? {pos : Nat} {value : Text} (h : word? ts pos = some value) :
    ∃ quoted, token? ts pos = some (.word value quoted) := by
  unfold word? at h
  split at h
  · next value' quoted htoken =>
    cases h
    exact ⟨quoted, htoken⟩
  · cases h

theorem of_behindHeader? {pos : Nat} (h : behindHeader? ts = some pos) :
    0 < pos ∧ pos ≤ ts.length := by
  obtain ⟨begin, hbegin, rfl⟩ := Option.map_eq_some_iff.mp h
  have hheader : isHeaderAt ts begin = true := by simpa using List.find?_some hbegin
  obtain ⟨t, ht, -⟩ : ∃ t, token? ts (begin + 4) = some t ∧ t.isKeyword "EXISTS".toList = true := by
    have hexists : ("EXISTS".toList, 4) ∈ headerKeywords.zipIdx := by decide
    have := List.all_eq_true.mp hheader _ hexists
    simpa [Option.any_eq_true] using this
  have hlength : headerKeywords.length = 5 := rfl
  have := lt_of_token? ht
  omega

/-- An expression that has tokens begins and ends with one. -/
theorem exists_bounds (source : Text) {first pos : Nat} (hfirst : first < pos)
    (hpos : pos ≤ ts.length) : ∃ t u, ts[first]? = some t ∧ ts[pos - 1]? = some u
      ∧ bounds? source ts first pos
        = some (Text.byteOffset source t.first, Text.byteOffset source u.last) := by
  have ht : ts[first]? = some ts[first] := List.getElem?_eq_getElem (by omega)
  have hu : ts[pos - 1]? = some ts[pos - 1] := List.getElem?_eq_getElem (by omega)
  have hpred : pos.ppred = some (pos - 1) := Nat.ppred_eq_some.mpr (by omega)
  refine ⟨_, _, ht, hu, ?_⟩
  unfold bounds?
  rw [ht, hpred, Option.bind_some, hu]

/-- The text of an expression that has tokens. -/
theorem exists_textStep (source : Text) {s : State} (c : Pending) {first : Nat}
    (hfirst : first < s.pos) (hpos : s.pos ≤ ts.length) :
    ∃ t u, ts[first]? = some t ∧ ts[s.pos - 1]? = some u
      ∧ textStep source ts s c first
        = s.stay (.clauses (c.add (.default (Grammar.expressionText source t u)))) := by
  obtain ⟨t, u, ht, hu, hbounds⟩ := exists_bounds source hfirst hpos
  refine ⟨t, u, ht, hu, ?_⟩
  unfold textStep
  rw [if_neg (Nat.ne_of_gt hfirst), hbounds]
  dsimp only
  rw [Text.slice?_max]
  rfl

end Looks

end TableScaffold.Cursor
