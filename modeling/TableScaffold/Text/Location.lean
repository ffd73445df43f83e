import TableScaffold.Text.Basic

/-!
# Places in a text

A location is a line and a column, both counted from 1; a line feed starts the
next line and every other character moves on by one column.  `byteOffset` turns
a location back into the number of UTF-8 bytes before it, and `slice` takes the
part of a text between two byte offsets.
-/

namespace TableScaffold

/-- A line and a column of a text, both counted from 1. -/
structure Location where
  line : Nat
  column : Nat
  deriving DecidableEq, Repr, Inhabited

namespace Location

/-- The first place of a text. -/
def start : Location := ⟨1, 1⟩

/-- The place behind a character that stands at `l`. -/
def next (l : Location) (c : Char) : Location :=
  if c = '\n' then ⟨l.line + 1, 1⟩ else ⟨l.line, l.column + 1⟩

/-- The place behind a text that begins at `l`. -/
def after (l : Location) (t : Text) : Location := t.foldl next l

@[simp] theorem after_nil (l : Location) : l.after [] = l := rfl

@[simp] theorem after_cons (l : Location) (c : Char) (t : Text) :
    l.after (c :: t) = (l.next c).after t := rfl

@[simp] theorem after_append (l : Location) (s t : Text) :
    l.after (s ++ t) = (l.after s).after t := by
  simp [after]

end Location

namespace Text

/-- The number of bytes of a text in UTF-8. -/
def byteCount (t : Text) : Nat := t.foldr (fun c n => c.utf8Size + n) 0

@[simp] theorem byteCount_nil : byteCount [] = 0 := rfl

@[simp] theorem byteCount_cons (c : Char) (t : Text) :
    byteCount (c :: t) = c.utf8Size + byteCount t := rfl

@[simp] theorem byteCount_append (s t : Text) :
    byteCount (s ++ t) = byteCount s + byteCount t := by
  induction s with
  | nil => simp
  | cons c s ih => rw [List.cons_append, byteCount_cons, byteCount_cons, ih, Nat.add_assoc]

/-- The number of UTF-8 bytes before a location.  A column beyond the end of its
line stands for the end of that line, and a line beyond the last one for the end
of the text. -/
def byteOffset : Text → Location → Nat
  | [], _ => 0
  | c :: r, ⟨line, column⟩ =>
    if 1 < line then
      c.utf8Size + byteOffset r ⟨if c = '\n' then line - 1 else line, column⟩
    else if 1 < column then
      c.utf8Size + if c = '\n' then 0 else byteOffset r ⟨line, column - 1⟩
    else 0

/-- The text behind its first `n` bytes. -/
def dropBytes : Nat → Text → Text
  | _, [] => []
  | n, c :: r => if n = 0 then c :: r else dropBytes (n - c.utf8Size) r

/-- The first `n` bytes of the text. -/
def takeBytes : Nat → Text → Text
  | _, [] => []
  | n, c :: r => if n = 0 then [] else c :: takeBytes (n - c.utf8Size) r

/-- The part of a text from one byte offset up to another. -/
def slice (t : Text) (first last : Nat) : Text := takeBytes (last - first) (dropBytes first t)

end Text

end TableScaffold
