import TableScaffold.Proofs.Table.Written

set_option autoImplicit false

/-!
# The tokens of a definition in writing

Every part of a written definition has its lexemes, and `Definition.reads` says
that the text of a definition falls into the lexemes of its parts.
-/

namespace TableScaffold.Written

open Sql (BeginsDelimited Lexeme Reads RowPart Token beginsDelimited_cons)

/-! ## Parts of a column -/

/-- The lexeme between two words. -/
def space : Lexeme := ⟨.blank, [' ']⟩

theorem beginsDelimited_space (t : Text) : BeginsDelimited (' ' :: t) :=
  beginsDelimited_cons (by decide) t

/-- The lexeme of a keyword. -/
def Spelling.lexeme {keyword : String} (s : Spelling keyword) : Lexeme :=
  ⟨.word s.text false, s.text⟩

/-- The lexeme of a name. -/
def Name.lexeme (n : Name) : Lexeme := ⟨.word n.value true, Sql.quote n.value⟩

/-- The lexeme of a word of a type. -/
def TypeWord.lexeme (w : TypeWord) : Lexeme := ⟨.word w.text false, w.text⟩

/-- The lexemes of a group. -/
def Group.lexemes (g : Group) : List Lexeme :=
  (⟨.leftParen, ['(']⟩ :: g.inner) ++ [⟨.rightParen, [')']⟩]

theorem Spelling.part {keyword : String} (s : Spelling keyword)
    (h : keyword.toList ≠ [] ∧ ∀ c ∈ keyword.toList, c.isAlpha) : RowPart s.text [s.lexeme] :=
  RowPart.word (Sql.isBareWord_of_eqIgnoringCase s.spells h.1 h.2)

theorem Name.part (n : Name) : RowPart (Sql.quote n.value) [n.lexeme] := RowPart.quote n.singleRow

theorem TypeWord.part (w : TypeWord) : RowPart w.text [w.lexeme] := RowPart.word w.bare

theorem qualify_part (qualifiers : List Name) (name : Name) :
    RowPart (Sql.qualify (qualifiers.map Name.value) name.value)
      (Sql.qualifyLexemes (qualifiers.map Name.value) name.value) := by
  refine RowPart.qualify ?_ name.singleRow
  intro q hq
  obtain ⟨n, -, rfl⟩ := List.mem_map.mp hq
  exact n.singleRow

theorem Group.text_eq (g : Group) : ('(' :: Sql.textOf g.inner) ++ [')'] = g.text := by
  have htext := Sql.flatten_lexemes g.reads
  simpa [Sql.textOf] using htext

theorem Group.beginsDelimited (g : Group) : BeginsDelimited g.text := by
  rw [← g.text_eq]
  exact beginsDelimited_cons (by decide) _

theorem Group.part (g : Group) : RowPart g.text g.lexemes where
  toReads := by
    refine Reads.of_last g.reads ?_
    intro l hl
    rw [Group.lexemes, List.getLast?_concat] at hl
    obtain rfl : (⟨.rightParen, [')']⟩ : Lexeme) = l := by simpa using hl
    decide
  not_newline := g.singleRow
  not_return := by
    rw [← g.text_eq, List.getLast?_concat]
    decide

theorem Expression.part {e : Expression} (h : e.Settled) : RowPart e.text e.lexemes where
  toReads := by
    refine Reads.of_last e.reads ?_
    intro l hl
    refine ⟨e.lastSolid l hl, ?_⟩
    intro hopen
    refine h ⟨l.text, ?_, hopen⟩
    simp [Sql.lastToken?, e.reads, Option.mem_def.mp hl]
  not_newline := e.singleRow
  not_return hlast := absurd (e.lastVisible _ hlast) (by decide)

/-! ## Constraints -/

/-- The lexemes of a clause. -/
def Clause.lexemes : Clause → List Lexeme
  | notNull first second => first.lexeme :: space :: [second.lexeme]
  | null keyword => [keyword.lexeme]
  | primaryKey first second => first.lexeme :: space :: [second.lexeme]
  | unique keyword => [keyword.lexeme]
  | default keyword expression => keyword.lexeme :: space :: expression.lexemes
  | references keyword qualifiers table column =>
    keyword.lexeme :: space :: Sql.qualifyLexemes (qualifiers.map Name.value) table.value
      ++ column.elim [] fun c => [⟨.leftParen, ['(']⟩, c.lexeme, ⟨.rightParen, [')']⟩]

theorem Clause.part {c : Clause} (h : c.Settled) : RowPart c.print c.lexemes := by
  cases c with
  | notNull first second =>
    exact (first.part (by decide)).append (second.part (by decide)).space (beginsDelimited_space _)
  | null keyword => exact keyword.part (by decide)
  | primaryKey first second =>
    exact (first.part (by decide)).append (second.part (by decide)).space (beginsDelimited_space _)
  | unique keyword => exact keyword.part (by decide)
  | default keyword expression =>
    exact (keyword.part (by decide)).append (Expression.part h).space (beginsDelimited_space _)
  | references keyword qualifiers table column =>
    have hname := (keyword.part (by decide)).append (qualify_part qualifiers table).space
      (beginsDelimited_space _)
    cases column with
    | none => exact hname.append RowPart.nil (by simp [BeginsDelimited])
    | some column =>
      have hclose : RowPart [')'] [⟨.rightParen, [')']⟩] := RowPart.nil.rightParen
      have hcolumn := column.part.append hclose (beginsDelimited_cons (by decide) [])
      exact hname.append hcolumn.leftParen (beginsDelimited_cons (by decide) _)

/-- The lexemes of a constraint. -/
def ConstraintEntry.lexemes (c : ConstraintEntry) : List Lexeme :=
  (c.name.elim [] fun n => [space, n.1.lexeme, space, n.2.lexeme]) ++ space :: c.clause.lexemes

theorem ConstraintEntry.beginsDelimited (c : ConstraintEntry) : BeginsDelimited c.print := by
  unfold ConstraintEntry.print
  cases c.name with
  | none => exact beginsDelimited_space _
  | some n => exact beginsDelimited_space _

theorem ConstraintEntry.part {c : ConstraintEntry} (h : c.clause.Settled) : RowPart c.print c.lexemes := by
  unfold ConstraintEntry.print ConstraintEntry.lexemes
  cases c.name with
  | none => exact (Clause.part h).space
  | some n =>
    have hname := (n.1.part (by decide)).space.append n.2.part.space (beginsDelimited_space _)
    exact hname.append (Clause.part h).space (beginsDelimited_space _)

/-! ## Columns -/

/-- Parts that begin with delimiters can be written behind each other. -/
theorem flatMap_part {α : Type} {print : α → Text} {lexemes : α → List Lexeme}
    {as : List α} (h : ∀ a ∈ as, RowPart (print a) (lexemes a))
    (hbegins : ∀ a, BeginsDelimited (print a)) : RowPart (as.flatMap print) (as.flatMap lexemes)
      ∧ BeginsDelimited (as.flatMap print) := by
  induction as with
  | nil => exact ⟨RowPart.nil, by simp [BeginsDelimited]⟩
  | cons a as ih =>
    rw [List.forall_mem_cons] at h
    obtain ⟨hpart, hrest⟩ := ih h.2
    rw [List.flatMap_cons, List.flatMap_cons]
    exact ⟨h.1.append hpart hrest, (hbegins a).append hrest⟩

/-- The lexemes of words with the spaces before them. -/
def wordLexemes (words : List TypeWord) : List Lexeme := words.flatMap fun w => [space, w.lexeme]

theorem printWords_part (words : List TypeWord) :
    RowPart (ColumnEntry.printWords words) (wordLexemes words)
      ∧ BeginsDelimited (ColumnEntry.printWords words) :=
  @flatMap_part TypeWord (fun w => ' ' :: w.text) (fun w => [space, w.lexeme]) words
    (fun w _ => w.part.space) (fun w => beginsDelimited_space w.text)

/-- The lexemes of constraints. -/
def constraintLexemes (cs : List ConstraintEntry) : List Lexeme :=
  cs.flatMap ConstraintEntry.lexemes

/-- The lexemes of a column's type. -/
def ColumnEntry.typeLexemes (c : ColumnEntry) : List Lexeme :=
  wordLexemes c.words ++ c.group.elim [] fun g => g.1.lexemes ++ wordLexemes g.2

/-- The lexemes of a column. -/
def ColumnEntry.lexemes (c : ColumnEntry) : List Lexeme :=
  c.name.lexeme :: c.typeLexemes ++ constraintLexemes c.constraints

theorem ColumnEntry.type_part (c : ColumnEntry) :
    RowPart c.printType c.typeLexemes ∧ BeginsDelimited c.printType := by
  have hwords := printWords_part c.words
  unfold ColumnEntry.printType ColumnEntry.typeLexemes
  cases c.group with
  | none => simpa using hwords
  | some g =>
    have hmore := printWords_part g.2
    have hbegins := g.1.beginsDelimited.append hmore.2
    exact ⟨hwords.1.append (g.1.part.append hmore.1 hmore.2) hbegins, hwords.2.append hbegins⟩

theorem ColumnEntry.part {c : ColumnEntry} (h : c.Settled) : RowPart c.print c.lexemes := by
  have hconstraints := flatMap_part (fun k hk => ConstraintEntry.part (h k hk))
    ConstraintEntry.beginsDelimited
  exact (c.name.part.append c.type_part.1 c.type_part.2).append hconstraints.1 hconstraints.2

/-! ## Definitions -/

/-- The lexemes of the first row up to the name. -/
def Definition.headerLexemes (d : Definition) : List Lexeme :=
  [d.createWord.lexeme, space, d.tableWord.lexeme, space, d.ifWord.lexeme, space,
    d.notWord.lexeme, space, d.existsWord.lexeme]

/-- The lexeme between two rows. -/
def newline : Lexeme := ⟨.blank, ['\n']⟩

/-- The lexemes of columns from the line feed in front of them on. -/
def columnsLexemes : List ColumnEntry → List Lexeme
  | [] => [newline, ⟨.rightParen, [')']⟩]
  | [c] => newline :: c.lexemes ++ [newline, ⟨.rightParen, [')']⟩]
  | c :: c' :: cs => newline :: c.lexemes ++ ⟨.comma, [',']⟩ :: columnsLexemes (c' :: cs)

/-- The lexemes of a definition. -/
def Definition.lexemes (d : Definition) : List Lexeme :=
  d.headerLexemes ++ space :: Sql.qualifyLexemes (d.qualifiers.map Name.value) d.name.value
    ++ [space, ⟨.leftParen, ['(']⟩] ++ columnsLexemes d.columns

theorem Definition.header_part (d : Definition) : RowPart d.header
    (d.headerLexemes ++ space :: Sql.qualifyLexemes (d.qualifiers.map Name.value) d.name.value
      ++ [space, ⟨.leftParen, ['(']⟩]) := by
  have hkeywords := (d.createWord.part (by decide))
    |>.append (d.tableWord.part (by decide)).space (beginsDelimited_space _)
    |>.append (d.ifWord.part (by decide)).space (beginsDelimited_space _)
    |>.append (d.notWord.part (by decide)).space (beginsDelimited_space _)
    |>.append (d.existsWord.part (by decide)).space (beginsDelimited_space _)
  have hname := hkeywords.append (qualify_part d.qualifiers d.name).space (beginsDelimited_space _)
  exact hname.append RowPart.nil.leftParen.space (beginsDelimited_space _)

theorem reads_newline {t : Text} {xs : List Lexeme} (h : Reads t xs) :
    Reads ('\n' :: t) (newline :: xs) :=
  h.cons (fun _ => rfl) rfl (by decide)

/-- The rows of columns, from the line feed in front of them on. -/
theorem columns_reads {cs : List ColumnEntry} (h : ∀ c ∈ cs, c.Settled) :
    Reads ('\n' :: Text.join ['\n'] (Definition.rows cs ++ [[')']])) (columnsLexemes cs) := by
  have hlast : Reads ['\n', ')'] [newline, ⟨.rightParen, [')']⟩] :=
    reads_newline RowPart.nil.rightParen.toReads
  induction cs with
  | nil => exact hlast
  | cons c cs ih =>
    rw [List.forall_mem_cons] at h
    have hpart := ColumnEntry.part h.1
    cases cs with
    | nil =>
      have := reads_newline (hpart.toReads.append hlast (beginsDelimited_cons (by decide) _))
      simpa [Definition.rows, columnsLexemes] using this
    | cons c' cs =>
      have hrest : Reads (',' :: '\n' :: Text.join ['\n'] (Definition.rows (c' :: cs) ++ [[')']]))
          (⟨.comma, [',']⟩ :: columnsLexemes (c' :: cs)) :=
        (ih h.2).cons (fun _ => rfl) rfl (by decide)
      have hcolumn := reads_newline
        (hpart.toReads.append hrest (beginsDelimited_cons (by decide) _))
      have hrows : Definition.rows (c :: c' :: cs) = (c.print ++ [',']) :: Definition.rows (c' :: cs) :=
        rfl
      rw [hrows]
      cases hmore : Definition.rows (c' :: cs) <;> simpa [hmore, columnsLexemes] using hcolumn

/-- The text of a definition falls into the lexemes of its parts. -/
theorem Definition.reads {d : Definition} (h : d.Settled) : Reads d.print d.lexemes := by
  have hprint : d.print = d.header ++ '\n' :: Text.join ['\n'] (rows d.columns ++ [[')']]) := by
    unfold Definition.print
    cases hrows : rows d.columns <;> simp
  rw [hprint]
  exact d.header_part.toReads.append (columns_reads h) (beginsDelimited_cons (by decide) _)

end TableScaffold.Written
