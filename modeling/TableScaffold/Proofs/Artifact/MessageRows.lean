import Mathlib.Data.List.DropRight
import TableScaffold.Artifact.Message
import TableScaffold.Proofs.Text.Rows

set_option autoImplicit false

/-!
# The rows of a message

A message is a row with its name, one row for each field and a row with its end
(`Message.build_eq`).  A quoted column name may hold blanks, digits, `=`, `;` and braces, so
the row of a field can look like several fields, or like the end of its message.  A message can
still be read back as long as no name has a line feed (`Message.readsAs_build`): a field's type
has no blank and its number has only digits, so the row is read from both ends and the name is
what is left between them.
-/

namespace TableScaffold

/-! ## Numerals and rows -/

namespace Text

theorem dropSuffix?_append (t suffix : Text) : dropSuffix? suffix (t ++ suffix) = some t :=
  List.isSuffixOf?_eq_some_iff_append_eq.mpr rfl

theorem isDigit_of_mem_ofNat {n : Nat} {c : Char} (h : c ∈ ofNat n) : c.isDigit = true :=
  Nat.isDigit_of_mem_toDigits (by decide) (by decide) h

/-- A numeral is read off the end of a text in which it follows no other digit. -/
theorem rtakeWhile_ofNat {t : Text} (hlast : ∀ c ∈ t.getLast?, c.isDigit = false) (n : Nat) :
    (t ++ ofNat n).rtakeWhile Char.isDigit = ofNat n
      ∧ (t ++ ofNat n).rdropWhile Char.isDigit = t := by
  have hdigits : ∀ c ∈ (ofNat n).reverse, c.isDigit = true := fun c hc =>
    isDigit_of_mem_ofNat (List.mem_reverse.mp hc)
  have hstop : t.reverse.takeWhile Char.isDigit = []
      ∧ t.reverse.dropWhile Char.isDigit = t.reverse := by
    rw [← List.head?_reverse] at hlast
    cases hreverse : t.reverse with
    | nil => exact ⟨rfl, rfl⟩
    | cons c r =>
      have hc : ¬ c.isDigit = true := by simp [hlast c (hreverse ▸ rfl)]
      exact ⟨List.takeWhile_cons_of_neg hc, List.dropWhile_cons_of_neg hc⟩
  unfold List.rtakeWhile List.rdropWhile
  rw [List.reverse_append, List.takeWhile_append_of_pos hdigits,
    List.dropWhile_append_of_pos hdigits, hstop.1, hstop.2]
  simp

end Text

namespace Message

/-- A field of a message. -/
structure Field where
  protoType : Text
  name : Text
  number : Nat
  deriving DecidableEq, Repr

/-! ## The rows of a message -/

/-- The row of a field. -/
def fieldRow (column : Column) (number : Nat) : Text :=
  "    ".toList ++ column.scalar.protoType ++ [' '] ++ column.name ++ " = ".toList
    ++ Text.ofNat number ++ [';']

/-- The rows of the fields, the first of which has the given number. -/
def fieldRows (number : Nat) (columns : List Column) : List Text :=
  (columns.zipIdx number).map fun x => fieldRow x.1 x.2

/-- The row that a message begins with. -/
def firstRow (name : Text) : Text := "message ".toList ++ name ++ " \x7b".toList

/-- The row that a message ends with. -/
def lastRow : Text := ['\x7d']

theorem fieldLines_append (number : Nat) (columns : List Column) (last : Text) :
    fieldLines number columns ++ last
      = Text.join ['\n'] (fieldRows number columns ++ [last]) := by
  induction columns generalizing number with
  | nil => rfl
  | cons column columns ih =>
    have hrows : fieldRows number (column :: columns)
        = fieldRow column number :: fieldRows (number + 1) columns := rfl
    have hend : ";\n".toList = [';'] ++ ['\n'] := by simp
    have hline : fieldLine column number = fieldRow column number ++ ['\n'] := by
      unfold fieldLine fieldRow
      simp only [hend, List.append_assoc]
    rw [fieldLines, hrows, List.append_assoc, ih, List.cons_append,
      Text.join_cons (List.concat_ne_nil last _), hline]

/-- A message is its rows, with a line feed between any two. -/
theorem build_eq (name : Text) (columns : List Column) : build name columns
    = Text.join ['\n'] (firstRow name :: (fieldRows 1 columns ++ [lastRow])) := by
  have hfirst : " \x7b\n".toList = " \x7b".toList ++ ['\n'] := by simp
  rw [Text.join_cons (List.concat_ne_nil lastRow _), ← fieldLines_append]
  unfold build firstRow lastRow
  simp only [hfirst, List.append_assoc]

/-! ## Reading -/

/-- The field on a row.  Its type ends in front of the first blank, and its number begins
behind the last character that is no digit. -/
def fieldOfRow? (row : Text) : Option Field := do
  let typed ← Text.dropPrefix? "    ".toList row
  let named ← Text.dropPrefix? [' '] (typed.dropWhile (· ≠ ' '))
  let numbered ← Text.dropSuffix? [';'] named
  let name ← Text.dropSuffix? " = ".toList (numbered.rdropWhile Char.isDigit)
  some ⟨typed.takeWhile (· ≠ ' '), name, Nat.ofDigitChars 10 (numbered.rtakeWhile Char.isDigit) 0⟩

/-- The name on the row that a message begins with. -/
def nameOfRow? (row : Text) : Option Text := do
  let named ← Text.dropPrefix? "message ".toList row
  Text.dropSuffix? " \x7b".toList named

/-- The name and the fields of a message. -/
def read? (text : Text) : Option (Text × List Field) :=
  match Text.splitOn '\n' text with
  | [] => none
  | first :: rows => do
    let name ← nameOfRow? first
    let fieldRows ← List.isSuffixOf? [lastRow] rows
    let fields ← fieldRows.mapM fieldOfRow?
    some (name, fields)

/-! ## What is read -/

theorem not_mem_protoType (type : ScalarType) : ' ' ∉ type.protoType ∧ '\n' ∉ type.protoType := by
  cases type <;> decide

/-- The row of a field is read as the field. -/
theorem fieldOfRow?_fieldRow (column : Column) (number : Nat) : fieldOfRow? (fieldRow column number)
    = some ⟨column.scalar.protoType, column.name, number⟩ := by
  let named := column.name ++ " = ".toList
  let typed := column.scalar.protoType ++ ([' '] ++ (named ++ Text.ofNat number ++ [';']))
  have hrow : fieldRow column number = "    ".toList ++ typed := by
    unfold fieldRow
    simp only [typed, named, List.append_assoc]
  have hblank : ∀ c ∈ column.scalar.protoType, decide (c ≠ ' ') = true := by
    intro c hc
    rw [decide_eq_true_iff]
    rintro rfl
    exact (not_mem_protoType column.scalar).1 hc
  have hdrop : typed.dropWhile (· ≠ ' ') = [' '] ++ (named ++ Text.ofNat number ++ [';']) :=
    List.dropWhile_append_of_pos hblank
  have htake : typed.takeWhile (· ≠ ' ') = column.scalar.protoType := by
    rw [List.takeWhile_append_of_pos hblank]
    exact List.append_nil _
  have hlast : ∀ c ∈ named.getLast?, c.isDigit = false := by
    intro c hc
    have hspace : named.getLast? = some ' ' := List.getLast?_append_of_ne_nil _ (by decide)
    rw [hspace] at hc
    cases hc
    decide
  obtain ⟨hnumeral, hname⟩ := Text.rtakeWhile_ofNat hlast number
  have hvalue : Nat.ofDigitChars 10 (Text.ofNat number) 0 = number := Nat.ofDigitChars_ten_toDigits
  rw [fieldOfRow?, hrow, Text.dropPrefix?_eq_some.mpr rfl]
  simp only [Option.bind_eq_bind, Option.bind_some, hdrop, htake, Text.dropPrefix?_eq_some.mpr rfl,
    Text.dropSuffix?_append, hnumeral, hname, hvalue]
  rw [Text.dropSuffix?_append]
  rfl

/-- The fields for columns, the first of which has the given number. -/
def fields (number : Nat) (columns : List Column) : List Field :=
  (columns.zipIdx number).map fun x => ⟨x.1.scalar.protoType, x.1.name, x.2⟩

theorem mapM_fieldOfRow? (number : Nat) (columns : List Column) :
    (fieldRows number columns).mapM fieldOfRow? = some (fields number columns) := by
  induction columns generalizing number with
  | nil => rfl
  | cons column columns ih =>
    have hrows : fieldRows number (column :: columns)
        = fieldRow column number :: fieldRows (number + 1) columns := rfl
    rw [hrows, List.mapM_cons, fieldOfRow?_fieldRow, ih]
    rfl

/-- No name of a message has a line feed. -/
structure OnOneRow (name : Text) (columns : List Column) : Prop where
  name : '\n' ∉ name
  columns : ∀ x ∈ columns, '\n' ∉ x.name

variable {name other : Text} {columns others : List Column}

theorem not_mem_fieldRow {column : Column} (h : '\n' ∉ column.name) (number : Nat) :
    '\n' ∉ fieldRow column number := by
  have hnumber : '\n' ∉ Text.ofNat number := fun hmem =>
    absurd (Text.isDigit_of_mem_ofNat hmem) (by decide)
  have htype := (not_mem_protoType column.scalar).2
  unfold fieldRow
  simp [h, hnumber, htype]

theorem OnOneRow.not_mem_row (h : OnOneRow name columns) :
    ∀ row ∈ firstRow name :: (fieldRows 1 columns ++ [lastRow]), '\n' ∉ row := by
  have hfirst : '\n' ∉ firstRow name := by
    unfold firstRow
    simp [h.name]
  intro row hrow
  rcases List.mem_cons.mp hrow with rfl | hrow
  · exact hfirst
  rcases List.mem_append.mp hrow with hfield | hlast
  · obtain ⟨x, hx, rfl⟩ := List.mem_map.mp hfield
    exact not_mem_fieldRow (h.columns x.1 (List.fst_mem_of_mem_zipIdx hx)) x.2
  · rw [List.mem_singleton.mp hlast]
    decide

/-- A message is read as its name and its fields. -/
theorem read?_build (h : OnOneRow name columns) :
    read? (build name columns) = some (name, fields 1 columns) := by
  have hrows : Text.splitOn '\n' (build name columns)
      = firstRow name :: (fieldRows 1 columns ++ [lastRow]) := by
    rw [build_eq, Text.splitOn_join (List.cons_ne_nil _ _) h.not_mem_row]
  have hname : nameOfRow? (firstRow name) = some name := by
    have hrow : firstRow name = "message ".toList ++ (name ++ " \x7b".toList) :=
      List.append_assoc _ _ _
    unfold nameOfRow?
    rw [hrow, Text.dropPrefix?_eq_some.mpr rfl]
    exact Text.dropSuffix?_append name _
  have hclosed : List.isSuffixOf? [lastRow] (fieldRows 1 columns ++ [lastRow])
      = some (fieldRows 1 columns) := List.isSuffixOf?_eq_some_iff_append_eq.mpr rfl
  unfold read?
  rw [hrows]
  simp only [hname, hclosed, mapM_fieldOfRow?, Option.bind_eq_bind, Option.bind_some]

/-! ## Types, names and numbers -/

/-- The type and name of a field. -/
def Field.typedName (f : Field) : Text × Text := (f.protoType, f.name)

/-- The type and name of the field for a column. -/
def typedName (column : Column) : Text × Text := (column.scalar.protoType, column.name)

theorem map_typedName_fields (number : Nat) (columns : List Column) :
    (fields number columns).map Field.typedName = columns.map typedName := by
  have hmap : (fields number columns).map Field.typedName
      = ((columns.zipIdx number).map Prod.fst).map typedName := by
    rw [fields, List.map_map, List.map_map]
    rfl
  rw [hmap, List.zipIdx_map_fst]

theorem map_number_fields (number : Nat) (columns : List Column) :
    (fields number columns).map Field.number = List.range' number columns.length := by
  rw [fields, List.map_map]
  exact List.zipIdx_map_snd number columns

/-- A text is read as a message that has one field for each of some columns, in order and
numbered from 1. -/
def ReadsAs (text name : Text) (columns : List Column) : Prop :=
  ∃ fields, read? text = some (name, fields) ∧ fields.map Field.typedName = columns.map typedName
    ∧ fields.map Field.number = List.range' 1 columns.length

theorem readsAs_build (h : OnOneRow name columns) : ReadsAs (build name columns) name columns :=
  ⟨fields 1 columns, read?_build h, map_typedName_fields 1 columns, map_number_fields 1 columns⟩

/-- A text is a message that has one field for each of some columns: it has the rows of these
fields, numbered from 1, and is read back as this message if no name has a line feed. -/
structure HasFields (text name : Text) (columns : List Column) : Prop where
  rows : text = Text.join ['\n'] (firstRow name :: (fieldRows 1 columns ++ [lastRow]))
  reads : OnOneRow name columns → ReadsAs text name columns

theorem hasFields_build (name : Text) (columns : List Column) :
    HasFields (build name columns) name columns := ⟨build_eq name columns, readsAs_build⟩

/-- A text is read as one message only. -/
theorem ReadsAs.unique {text : Text} (h : ReadsAs text name columns)
    (hother : ReadsAs text other others) :
    name = other ∧ columns.map typedName = others.map typedName := by
  obtain ⟨fs, hread, htyped, -⟩ := h
  obtain ⟨gs, hread', htyped', -⟩ := hother
  rw [hread, Option.some.injEq, Prod.mk.injEq] at hread'
  obtain ⟨rfl, rfl⟩ := hread'
  exact ⟨rfl, htyped.symm.trans htyped'⟩

end Message

end TableScaffold
