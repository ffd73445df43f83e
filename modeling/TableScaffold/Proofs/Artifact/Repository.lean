import TableScaffold.Proofs.Artifact.Builtin

set_option autoImplicit false

/-!
# The statements of a repository

A repository is rendered from nine lists of lines.  In its text they meet lines that are
the same for all tables: the argument for the identity, the expressions and variables of
the timestamps.  The text holds the insert and the two selects with their lists in place
(`renderIn_repository_statements`).
-/

namespace TableScaffold

open Template Piece

/-! ## Lists in the text -/

/-- A list of lines with a slot in it: the lines before the slot, those in the slot, and
those behind it. -/
structure SlottedLines where
  before : List Text
  inner : List Text
  behind : List Text

namespace SlottedLines

/-- All the lines. -/
def entries (l : SlottedLines) : List Text := l.before ++ l.inner ++ l.behind

/-- The lines of the text; a slot with no lines leaves an empty line. -/
def lines (l : SlottedLines) : List Text := l.before ++ Text.join ['\n'] l.inner :: l.behind

end SlottedLines

namespace Fragments

variable (f : Fragments)

/-- The arguments of an insert. -/
def arguments : SlottedLines := ⟨["\t\tid,".toList], f.insertArguments, []⟩

/-- The expressions of a select. -/
def expressions : List Text :=
  f.selectColumns ++ ["\t\t\tTO_CHAR(created_at, 'YYYY-MM-DD HH24:MI:SS')".toList,
    "\t\t\tTO_CHAR(updated_at, 'YYYY-MM-DD HH24:MI:SS')".toList]

/-- The lines of the expressions of a select. -/
def expressionLines : List Text :=
  [Text.join ",\n".toList f.selectColumns ++ [','],
    "\t\t\tTO_CHAR(created_at, 'YYYY-MM-DD HH24:MI:SS'),".toList,
    "\t\t\tTO_CHAR(updated_at, 'YYYY-MM-DD HH24:MI:SS')".toList]

/-- The declarations of the variables that a row is scanned into, at an indentation. -/
def declarations (depth : Nat) : SlottedLines where
  before := [List.replicate depth '\t' ++ "id        sql.NullString".toList]
  inner := f.scanDeclarations
  behind := [List.replicate depth '\t' ++ "createdAt sql.NullString".toList,
    List.replicate depth '\t' ++ "updatedAt sql.NullString".toList]

/-- The variables that a row is scanned into, at an indentation. -/
def targets (depth : Nat) : SlottedLines where
  before := [List.replicate depth '\t' ++ "&id,".toList]
  inner := f.scanTargets
  behind := [List.replicate depth '\t' ++ "&createdAt,".toList,
    List.replicate depth '\t' ++ "&updatedAt,".toList]

/-- The fields of a response, at an indentation. -/
def responses (depth : Nat) : SlottedLines where
  before := [List.replicate depth '\t' ++ "Id:        id.String,".toList]
  inner := f.responseFields
  behind := [List.replicate depth '\t' ++ "CreatedAt: createdAt.String,".toList,
    List.replicate depth '\t' ++ "UpdatedAt: updatedAt.String,".toList]

end Fragments

/-! ## Statements in the text -/

namespace Repository

variable (table : Text) (f : Fragments)

/-- The lines of the insert, from the variable of the identity to the arguments. -/
def insertLines : List Text :=
  ["\tvar id = uuid.New()".toList, [], "\tquery := \x60".toList,
    "\t\tINSERT INTO \"".toList ++ table ++ "\" (".toList,
    Text.join ",\n".toList f.insertColumns, "\t\t)".toList,
    "\t\tVALUES (".toList ++ Text.join ", ".toList f.insertValues ++ ")".toList, "\t\x60".toList, [],
    "\t_, err = c.db.Exec(ctx,".toList, "\t\tquery,".toList]
  ++ f.arguments.lines ++ ["\t)".toList]

/-- The lines of the select of one row, from its expressions to the fields that the row is
read into; `message` is the type of the response. -/
def selectLines (message : Text) : List Text :=
  ["\t\tSELECT".toList] ++ f.expressionLines ++ ["\t\tFROM \"".toList ++ table ++ ['"'],
    "\t\tWHERE id = $1".toList, "\t\x60".toList, [], "\tvar (".toList]
  ++ (f.declarations 2).lines
  ++ ["\t)".toList, [], "\terr = c.db.QueryRow(ctx, query, req.Id).Scan(".toList]
  ++ (f.targets 2).lines
  ++ ["\t)".toList, [], "\tif err != nil \x7b".toList, "\t\treturn resp, err".toList,
    "\t\x7d".toList, [], "\tresp = &".toList ++ message ++ "\x7b".toList]
  ++ (f.responses 2).lines ++ ["\t\x7d".toList]

/-- The lines of the select of many rows: how many there are is selected too. -/
def listLines : List Text :=
  ["\t\tSELECT".toList, "\t\t\tCOUNT(*) OVER(),".toList] ++ f.expressionLines
  ++ ["\t\tFROM \"".toList ++ table ++ ['"']]

/-- The lines that scan one of many rows, from the declarations to the fields that the row
is read into. -/
def rowLines (rows message : Text) : List Text :=
  ["\tfor rows.Next() \x7b".toList, "\t\tvar (".toList]
  ++ (f.declarations 3).lines
  ++ ["\t\t)".toList, [], "\t\terr := rows.Scan(".toList, "\t\t\t&resp.Count,".toList]
  ++ (f.targets 3).lines
  ++ ["\t\t)".toList, [], "\t\tif err != nil \x7b".toList, "\t\t\treturn resp, err".toList,
    "\t\t\x7d".toList, [],
    "\t\tresp.".toList ++ rows ++ " = append(resp.".toList ++ rows ++ ", &".toList ++ message
      ++ "\x7b".toList]
  ++ (f.responses 3).lines ++ ["\t\t\x7d)".toList]

end Repository

section

variable (t : Table) (c : Config)

/-- The lines of the built-in template, filled in for a table. -/
def filledLines (lines : List (List Piece)) : List Text :=
  lines.map (·.flatMap (value (ArtifactKind.repository.slotValue t c)))

open Builtin.Repository in
/-- The statements among the lines of the built-in template. -/
theorem filledLines_statements :
    let message := c.protoPackage ++ '.' :: Naming.exported t.name
    filledLines t c ((create.drop 5).take 14) = Repository.insertLines t.name t.fragments
      ∧ filledLines t c ((getByKey.drop 6).take 32)
        = Repository.selectLines t.name t.fragments message
      ∧ filledLines t c ((listQuery.drop 17).take 6) = Repository.listLines t.name t.fragments
      ∧ filledLines t c ((listRows.drop 8).take 26)
        = Repository.rowLines t.fragments (Naming.plural (Naming.exported t.name)) message := by
  simp only [filledLines, create, getByKey, listQuery, listRows, line, List.drop_succ_cons,
    List.drop_zero, List.take_succ_cons, List.take_zero, List.map_cons, List.map_nil,
    List.flatMap_cons, List.flatMap_nil, value, List.append_nil, Repository.insertLines,
    Repository.selectLines, Repository.listLines, Repository.rowLines, SlottedLines.lines,
    Fragments.arguments, Fragments.expressionLines, Fragments.declarations, Fragments.targets,
    Fragments.responses, List.append_assoc, List.cons_append, List.nil_append]
  -- a literal is compared as the list of its characters, which is slow to take from the string
  simp (disch := exact rfl) only [toList_of_eq_ofList, List.cons_append, List.nil_append]
  exact ⟨rfl, rfl, rfl, rfl⟩

open Builtin.Repository in
/-- The text of a repository holds its statements, in order. -/
theorem renderIn_repository_statements [Template.Engine] (w : Workspace) :
    let message := c.protoPackage ++ '.' :: Naming.exported t.name
    ∃ a₁ a₂ a₃ a₄ a₅, TemplateSource.builtin.renderIn w ArtifactKind.repository.fileTemplate
        (ArtifactKind.repository.slots t c)
      = .ok (Text.join ['\n'] (a₁ ++ Repository.insertLines t.name t.fragments
          ++ a₂ ++ Repository.selectLines t.name t.fragments message
          ++ a₃ ++ Repository.listLines t.name t.fragments
          ++ a₄ ++ Repository.rowLines t.fragments (Naming.plural (Naming.exported t.name)) message
          ++ a₅)) := by
  obtain ⟨hinsert, hselect, hlist, hrows⟩ := filledLines_statements t c
  refine ⟨filledLines t c (header ++ create.take 5),
    filledLines t c (create.drop 19 ++ getByKey.take 6),
    filledLines t c (getByKey.drop 38 ++ listQuery.take 17),
    filledLines t c (listQuery.drop 23 ++ listRows.take 8),
    filledLines t c (listRows.drop 34 ++ update ++ updatePatch ++ delete), ?_⟩
  rw [renderIn_fileTemplate, ← hinsert, ← hselect, ← hlist, ← hrows]
  simp only [filledLines, ← List.map_append]
  rfl

end

end TableScaffold
