import TableScaffold.Text.Location
import TableScaffold.Toml.Fault
import TableScaffold.Toml.Scalar

/-!
# The table that a configuration file holds

The lines of a file are read one after the other and put together.  A key stands
for one value only, and a table that is complete is not extended.  A table that a
header opens is put in its place when the next header comes, or the end.
-/

namespace TableScaffold.Toml

/-- A key that was read, with its offset. -/
structure Key where
  text : Text
  start : Nat
  deriving DecidableEq, Repr

/-- The number of parts that a key can have. -/
def greatestKeyLength : Nat := 80

/-- The parts of a dotted key, in order. -/
def readParts : List Written → Reading (List Key)
  | [] => .ok []
  | w :: ws => do
    let text ← Reading.ofOffset (keyText w)
    return ⟨text, w.start⟩ :: (← readParts ws)

/-- The parts of a dotted key, in order, if there are not too many. -/
def readKeys (ws : List Written) : Reading (List Key) := do
  let keys ← readParts ws
  if keys.length > greatestKeyLength then .error .longKey else return keys

/-! ## Entries -/

/-- Replaces what an entry holds.  `change` is told the value that is there. -/
def alter (key : Text) (change : Option (Nat × Value) → Reading (Nat × Value)) :
    Entries → Reading Entries
  | [] => do return [(key, ← change none)]
  | (k, v) :: rest =>
    if k = key then do return (k, ← change (some v)) :: rest
    else do return (k, v) :: (← alter key change rest)

/-- Whether a dotted key may lead through a table of this form. -/
def TableForm.isOpen (f : TableForm) : Bool := f = .implied || f = .dotted

/-- Changes the entries of the table that a path leads to, which `change` is told
together with the form of the table; `home` is the form of the table that the path
begins in.  Tables that are missing on the way are made, in the given form. -/
def within (form home : TableForm) (path : List Key)
    (change : TableForm → Entries → Reading Entries) (entries : Entries) : Reading Entries :=
  match path with
  | [] => change home entries
  | key :: path =>
    alter key.text (fun old =>
      match old with
      | none => do return (key.start, .table form (← within form form path change []))
      | some (start, .table old entries) =>
        if old = .inlined || (form = .dotted && !old.isOpen) then .misfit key.start
        else do return (start, .table old (← within form old path change entries))
      | some (start, .tables (last :: others)) => do
        return (start, .tables ((← within form .headed path change last) :: others))
      | some _ => .misfit key.start) entries

/-- Puts in a value under a key that is not there yet. -/
def insertNew (key : Key) (start : Nat) (v : Value) : Entries → Reading Entries :=
  alter key.text fun
    | none => .ok (start, v)
    | some _ => .misfit key.start

/-! ## Values -/

/-- Where a value begins. -/
def RawValue.start : RawValue → Nat
  | scalar w => w.start
  | list start _ => start
  | table start _ => start

/-- What a dotted key may do to tables that were there before it. -/
structure Rules where
  /-- it may put a value into a table that only headers imply -/
  extendsImplied : Bool

/-- Whether a dotted key may put a value into a table of this form. -/
def Rules.admits (rules : Rules) (form : TableForm) : Bool :=
  form = .dotted || (rules.extendsImplied && form = .implied)

/-- The rules under which no table is put into where a header implies it. -/
def Rules.strict : Rules := ⟨false⟩

/-- The rules under which a table that a header implies is put into. -/
def Rules.lenient : Rules := ⟨true⟩

section

variable (rules : Rules)

/-- Puts in a value under a dotted key. -/
def insertAt (keys : List Key) (start : Nat) (v : Value) (entries : Entries) :
    Reading Entries :=
  match keys.getLast? with
  | none => .ok entries
  | some key =>
    within .dotted .headed keys.dropLast (fun form entries =>
      if keys.length > 1 && !rules.admits form then .misfit key.start
      else insertNew key start v entries) entries

mutual

/-- Reads the scalars of a value. -/
def readValue : RawValue → Reading Value
  | .scalar w => Reading.ofOffset (scalarValue w)
  | .list _ items => do return .list (← readItems items)
  | .table _ pairs => do return .table .inlined (← readPairs [] pairs)

/-- Reads the items of a list. -/
def readItems : List RawValue → Reading (List (Nat × Value))
  | [] => .ok []
  | v :: vs => do
    let value ← readValue v
    return (v.start, value) :: (← readItems vs)

/-- Reads the pairs of an inline table, behind those already read. -/
def readPairs (entries : Entries) : List (List Written × RawValue) → Reading Entries
  | [] => .ok entries
  | (written, v) :: rest => do
    let keys ← readKeys written
    let value ← readValue v
    readPairs (← insertAt rules keys v.start value entries) rest

end

end

/-! ## Documents -/

/-- The header of a table: where it begins, the tables around the one it opens, and
the key of that. -/
structure Header where
  /-- whether the table is one more of several under one key -/
  ofArray : Bool
  start : Nat
  path : List Key
  key : Key

/-- What has been read of a file. -/
structure Document where
  /-- the tables that are complete -/
  root : Entries := []
  /-- the header of the current table; the table of the whole file has none -/
  header : Option Header := none
  /-- the entries of the current table -/
  current : Entries := []

namespace Document

/-- What is under the key of a header when its table is put there, which held `old`
before. -/
def placed (h : Header) (entries : Entries) (old : Option (Nat × Value)) :
    Reading (Nat × Value) :=
  match h.ofArray, old with
  | false, _ => .ok (h.start, .table .headed entries)
  | true, none => .ok (h.start, .tables [entries])
  | true, some (first, .tables ts) => .ok (first, .tables (entries :: ts))
  | true, some _ => .misfit h.key.start

/-- All entries, with those of the current table in their place. -/
def entries (d : Document) : Reading Entries :=
  match d.header with
  | none => .ok d.current
  | some h =>
    within .implied .headed h.path (fun _ => alter h.key.text (placed h d.current)) d.root

/-- The value that a path of keys leads to in the entries, if there is one.  Of
several tables under one key the last one counts. -/
def find? (path : List Key) (key : Key) (entries : Entries) : Option Value :=
  match path with
  | [] => (entries.lookup key.text).map (·.2)
  | k :: path =>
    match entries.lookup k.text with
    | some (_, .table _ entries) => find? path key entries
    | some (_, .tables (last :: _)) => find? path key last
    | _ => none

/-- The entries that the table of a header begins with: those of a table that other
headers imply. -/
def firstEntries (h : Header) (root : Entries) : Reading Entries :=
  if h.ofArray then .ok []
  else
    match find? h.path h.key root with
    | none => .ok []
    | some (.table .implied entries) => .ok entries
    | some _ => .misfit h.key.start

/-- The document behind one more header; `root` holds all entries before it.  The way
to a table that is not one of several has to be free already here. -/
def openTable (root : Entries) (h : Header) : Reading Document := do
  let root ← if h.ofArray then pure root else within .implied .headed h.path (fun _ => .ok) root
  return ⟨root, some h, ← firstEntries h root⟩

/-- The document with one more line. -/
def addLine (rules : Rules) (d : Document) : Line → Reading Document
  | .pair written v => do
    let keys ← readKeys written
    let value ← readValue rules v
    return { d with current := ← insertAt rules keys v.start value d.current }
  | .header ofArray start written => do
    -- the table before is put in its place before the key of the next one is read
    let root ← d.entries
    let keys ← readKeys written
    match keys.getLast? with
    | none => return d
    | some key => openTable root ⟨ofArray, start, keys.dropLast, key⟩

end Document

/-- The entries of a file without a byte order mark, in the order of their keys. -/
def entriesOf (rules : Rules) (t : Text) : Reading Entries := do
  let lines ← Reading.ofOffset (linesOfTokens (lex t))
  let entries ← (← lines.foldlM (Document.addLine rules) {}).entries
  return sortByKey (sortedEntries entries)

/-- The place of a fault.  Columns count characters, but bytes if the fault is at a
character that is not ASCII; the end of the text counts as one more character of
its last line, also behind a line feed. -/
def faultLocation (t : Text) (offset : Nat) : Location :=
  let lineBefore (before : Text) : Text := before.reverse.takeWhile (· ≠ '\n')
  match t.drop offset with
  | c :: _ =>
    let before := t.take offset
    let column :=
      if c.utf8Size = 1 then (lineBefore before).length else Text.byteCount (lineBefore before)
    ⟨before.count '\n' + 1, column + 1⟩
  | [] =>
    match t with
    | [] => Location.start
    | _ :: _ => ⟨t.dropLast.count '\n' + 1, (lineBefore t.dropLast).length + 2⟩

/-- The character that may stand in front of a file. -/
def byteOrderMark : Char := Char.ofNat 0xFEFF

/-- Whether a byte order mark stands in front of a text, and the text behind it. -/
def dropMark (t : Text) : Bool × Text :=
  match t with
  | [] => (false, [])
  | c :: r => if c = byteOrderMark then (true, r) else (false, c :: r)

/-- The place in a file of an offset behind its byte order mark. -/
def placeOf (t : Text) (offset : Nat) : Location :=
  faultLocation t (if (dropMark t).1 then offset + 1 else offset)

/-- Reads a file: its entries, with the offsets of their values behind a byte order
mark, or its first fault. -/
def parse (rules : Rules) (t : Text) : Except (Fault Location) Entries :=
  match entriesOf rules (dropMark t).2 with
  | .ok entries => .ok entries
  | .error fault => .error (fault.map (placeOf t))

end TableScaffold.Toml
