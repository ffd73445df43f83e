import TableScaffold.Text.Basic

/-!
# Paths

A path is a text whose segments stand between slashes.  Joining paths does not
tidy them up, so a path is printed as it was put together; two paths are the
same if their components are.  Empty segments and inner segments `.` are no
components.
-/

namespace TableScaffold

/-- A path, as written. -/
abbrev Path := Text

namespace Path

/-- Whether a path begins at the root. -/
def isAbsolute (p : Path) : Bool := p.head? = some '/'

/-- The path `name`, seen from the directory `dir`. -/
def join (dir name : Path) : Path :=
  if isAbsolute name then name
  else if dir.isEmpty || dir.getLast? = some '/' then dir ++ name
  else dir ++ '/' :: name

/-- The segments of a path between its slashes. -/
def segments (p : Path) : List Text := Text.splitOn '/' p

/-- Whether a segment behind the first one names nothing. -/
def isFiller (segment : Text) : Bool := segment.isEmpty || segment = ['.']

/-! ## Components -/

/-- A component of a path. -/
inductive Component where
  | root
  /-- the current directory, at the front of a relative path -/
  | current
  | parent
  | name (name : Text)
  deriving DecidableEq, Repr

namespace Component

/-- The component that a segment with a name is. -/
def ofSegment (segment : Text) : Component :=
  if segment = ['.', '.'] then parent else name segment

/-- A component as it is written. -/
def spelling : Component → Text
  | root => []
  | current => ['.']
  | parent => ['.', '.']
  | name n => n

/-- The components of the first segment. -/
def ofFirst (absolute : Bool) (segment : Text) : List Component :=
  if segment.isEmpty then (if absolute then [root] else [])
  else if segment = ['.'] then [current]
  else [ofSegment segment]

end Component

/-- The components of a path. -/
def components (p : Path) : List Component :=
  match segments p with
  | [] => []
  | first :: later =>
    Component.ofFirst (isAbsolute p) first
      ++ (later.filter (!isFiller ·)).map Component.ofSegment

/-- Whether two paths have the same components. -/
def same (p q : Path) : Bool := components p = components q

/-! ## Directories above -/

/-- The path of a first segment and the later ones, which stand in reverse. -/
def ofReversed (first : Text) (later : List Text) : Path :=
  if later.isEmpty && first.isEmpty then ['/'] else Text.join ['/'] (first :: later.reverse)

/-- The paths above the one that the segments make, the nearest first.  The later
segments stand in reverse; those that name nothing make no step. -/
def aboveReversed (first : Text) : List Text → List Path
  | [] => if first.isEmpty then [] else [[]]
  | s :: before =>
    if isFiller s then aboveReversed first before
    else ofReversed first (before.dropWhile isFiller) :: aboveReversed first before

/-- The directories above a path, the nearest first: the root comes last for an
absolute path, and the empty path for a relative one. -/
def above (p : Path) : List Path :=
  match segments p with
  | [] => []
  | first :: later => aboveReversed first later.reverse

/-- The directory that a path lies in, if it lies in one. -/
def parent? (p : Path) : Option Path := (above p).head?

/-! ## Seen from a directory -/

/-- What is left of two lists behind their common front. -/
def dropCommon : List Component → List Component → List Component × List Component
  | a :: as, b :: bs => if a = b then dropCommon as bs else (a :: as, b :: bs)
  | as, bs => (as, bs)

/-- An absolute path as it is seen from an absolute directory. -/
def relativeTo (p dir : Path) : Path :=
  let (down, up) := dropCommon (components p) (components dir)
  Text.join ['/'] (up.map (fun _ => ['.', '.']) ++ down.map Component.spelling)

/-! ## Extensions -/

/-- The last component of a path, if it is a name. -/
def fileName? (p : Path) : Option Text :=
  match (components p).getLast? with
  | some (.name n) => some n
  | _ => none

/-- The extension of a path: what follows the last dot of its file name, unless
the name begins with that dot. -/
def extension? (p : Path) : Option Text :=
  match fileName? p with
  | none => none
  | some n =>
    match (Text.splitOn '.' n).reverse with
    | last :: before :: rest => if rest.isEmpty && before.isEmpty then none else some last
    | _ => none

/-- A file name without its extension. -/
def fileStem (name : Text) : Text :=
  match (Text.splitOn '.' name).reverse with
  | _ :: before :: rest =>
    if rest.isEmpty && before.isEmpty then name
    else Text.join ['.'] (before :: rest).reverse
  | _ => name

/-- The path with another extension of its file name, or with a first one.  What
stands behind the file name and names nothing is dropped; a path without a file name
stays as it is. -/
def withExtension (p : Path) (extension : Text) : Path :=
  match fileName? p, segments p with
  | some name, first :: later =>
    let last := fileStem name ++ '.' :: extension
    match later.reverse.dropWhile isFiller with
    | [] => last
    | _ :: before => ofReversed first (last :: before)
  | _, _ => p

/-- The path with one more extension, behind the one that it has. -/
def addExtension (p : Path) (extension : Text) : Path :=
  if (extension? p).isSome then withExtension (p ++ ".placeholder".toList) extension
  else withExtension p extension

end Path

end TableScaffold
