import TableScaffold.Files.Access
import TableScaffold.Files.Formatting
import TableScaffold.Text.Location

/-!
# A workspace as a value

A workspace is a tree of files and directories, held as the list of its entries,
with the directory that relative paths start from.  A place in it is the list of
names that lead there from the root.

A path is resolved step by step, and every step has to start from a directory.
Only the last step may lead to a place where nothing is.
-/

namespace TableScaffold

instance (priority := 2000) decidableEqBytes : DecidableEq ByteArray := ByteArray.instDecidableEq

/-- What is at a place. -/
inductive FileEntry where
  | file (bytes : ByteArray)
  | directory
  deriving DecidableEq

/-- The names that lead from the root to a place. -/
abbrev Place := List Text

/-- A tree of files and directories. -/
structure Workspace where
  /-- the place that relative paths start from -/
  home : Place := []
  /-- what is at the places other than the root -/
  entries : List (Place × FileEntry) := []
  deriving DecidableEq

namespace Workspace

/-! ## Entries -/

/-- What is at a place; the root is a directory. -/
def entryAt (w : Workspace) (place : Place) : Option FileEntry :=
  if place.isEmpty then some .directory else w.entries.lookup place

/-- The entries with one of them put in or replaced. -/
def putEntry (place : Place) (e : FileEntry) : List (Place × FileEntry) → List (Place × FileEntry)
  | [] => [(place, e)]
  | (other, old) :: rest =>
    if other = place then (place, e) :: rest else (other, old) :: putEntry place e rest

/-- Puts something at a place. -/
def put (w : Workspace) (place : Place) (e : FileEntry) : Workspace :=
  { w with entries := putEntry place e w.entries }

/-- Takes away what is at a place and below it. -/
def erase (w : Workspace) (place : Place) : Workspace :=
  { w with entries := w.entries.filter fun e => !place.isPrefixOf e.1 }

theorem lookup_putEntry (place other : Place) (e : FileEntry) (es : List (Place × FileEntry)) :
    (putEntry place e es).lookup other = if other = place then some e else es.lookup other := by
  induction es with
  | nil =>
    by_cases h : other = place
    · simp [putEntry, h]
    · simp [putEntry, List.lookup_cons, h, beq_eq_false_iff_ne.mpr h]
  | cons old rest ih =>
    obtain ⟨k, v⟩ := old
    by_cases hk : k = place
    · subst hk
      by_cases h : other = k
      · simp [putEntry, h]
      · simp [putEntry, List.lookup_cons, h, beq_eq_false_iff_ne.mpr h]
    · by_cases h : other = k
      · subst h
        simp [putEntry, hk]
      · simp [putEntry, List.lookup_cons, hk, beq_eq_false_iff_ne.mpr h, ih]

/-- What is put at a place is there, and nothing else changes. -/
theorem entryAt_put (w : Workspace) {place : Place} (h : place ≠ []) (e : FileEntry)
    (other : Place) :
    (w.put place e).entryAt other = if other = place then some e else w.entryAt other := by
  by_cases ho : other = []
  · subst ho
    simp [entryAt, h.symm]
  · simp [entryAt, put, ho, lookup_putEntry]

/-! ## Paths -/

/-- The longest name, in bytes. -/
def maxNameBytes : Nat := 255

/-- The number of bytes that a path has to stay below. -/
def maxPathBytes : Nat := 4096

/-- The place that one segment of a path leads to. -/
def step (w : Workspace) (place : Place) (segment : Text) : Except FileFault Place :=
  match w.entryAt place with
  | none => .error .notFound
  | some (.file _) => .error .notDirectory
  | some .directory =>
    if Path.isFiller segment then .ok place
    else if segment = ['.', '.'] then .ok place.dropLast
    else if maxNameBytes < Text.byteCount segment then .error .nameTooLong
    else .ok (place ++ [segment])

/-- The place that a path leads to. -/
def resolve (w : Workspace) (p : Path) : Except FileFault Place :=
  if p.contains '\x00' then .error .nulInName
  else if p.isEmpty then .error .notFound
  else if maxPathBytes ≤ Text.byteCount p then .error .nameTooLong
  else (Path.segments p).foldlM w.step (if p.isAbsolute then [] else w.home)

/-- A path without the slashes at its end, unless it has nothing but slashes. -/
def dropTrailingSlashes (p : Path) : Path :=
  match p.reverse.dropWhile (· = '/') with
  | [] => p
  | r => r.reverse

/-! ## Operations -/

/-- The bytes of a file. -/
def readBytes (w : Workspace) (p : Path) : Except FileFault ByteArray :=
  match w.resolve p with
  | .error e => .error e
  | .ok place =>
    match w.entryAt place with
    | none => .error .notFound
    | some .directory => .error .isDirectory
    | some (.file bytes) => .ok bytes

/-- The workspace with a file that holds the given bytes. -/
def writeBytes (w : Workspace) (p : Path) (bytes : ByteArray) : Except FileFault Workspace :=
  match w.resolve p with
  | .error e => .error e
  | .ok place =>
    match w.entryAt place with
    | some .directory => .error .isDirectory
    | _ => .ok (w.put place (.file bytes))

/-- The workspace with one more directory. -/
def makeDirectory (w : Workspace) (p : Path) : Except FileFault Workspace :=
  match w.resolve (dropTrailingSlashes p) with
  | .error e => .error e
  | .ok place =>
    match w.entryAt place with
    | some _ => .error .alreadyExists
    | none => .ok (w.put place .directory)

/-- The workspace once a file has been given to the formatter. -/
def formatFile [GoFormatter] (w : Workspace) (p : Path) : Workspace :=
  match w.readBytes p with
  | .error _ => w
  | .ok bytes =>
    match GoFormatter.format? p bytes with
    | none => w
    | some formatted =>
      match w.writeBytes p formatted with
      | .error _ => w
      | .ok w' => w'

/-- What is where a path leads. -/
def find? (w : Workspace) (p : Path) : Option FileEntry :=
  match w.resolve p with
  | .error _ => none
  | .ok place => w.entryAt place

/-- An operation that may change the workspace, as an action. -/
def act (f : Workspace → Except FileFault Workspace) :
    StateM Workspace (Except FileFault Unit) := fun w =>
  match f w with
  | .ok w' => (.ok (), w')
  | .error e => (.error e, w)

instance : FileAccess (StateM Workspace) where
  readBytes p := fun w => (w.readBytes p, w)
  writeBytes p bytes := act (·.writeBytes p bytes)
  makeDirectory p := act (·.makeDirectory p)
  isDirectory p := fun w => (w.find? p = some .directory, w)
  isPresent p := fun w => ((w.find? p).isSome, w)
  workingDirectory := fun w => ('/' :: Text.join ['/'] w.home, w)

instance [GoFormatter] : FormatAccess (StateM Workspace) where
  formatFile p := fun w => ((), w.formatFile p)

end Workspace

end TableScaffold
