import TableScaffold.CommandLine.Program

set_option autoImplicit false

/-!
# The rows of a listing

What is printed of a table is its name, a row for each of its columns, the conventional columns
that it lacks, and an empty row (`tableLines_eq`).
-/

namespace TableScaffold.CommandLine

/-- Rows as they are printed. -/
def printed (rows : List Text) : Text := rows.flatMap (· ++ ['\n'])

/-- The row of a column: its name, its type in SQL and as it is mapped, its role and its
constraints. -/
def columnRow (x : Column) : Text :=
  "    - ".toList ++ x.name ++ [' '] ++ x.sqlType ++ " -> ".toList ++ x.scalar.display
    ++ " [".toList ++ x.role.display ++ "] ".toList
    ++ Text.join [' '] (x.constraints.map Constraint.display)

/-- The conventional columns that a table lacks. -/
def lackedNames (t : Table) : List Text :=
  (["id", "created_at", "updated_at"].map String.toList).filter fun name =>
    t.columns.all (·.name ≠ name)

/-- The row for conventional columns that are missing, if there are any. -/
def missingRows : List Text → List Text
  | [] => []
  | missing =>
    ["  Missing conventional columns: [".toList
      ++ Text.join ", ".toList (missing.map Text.quoted) ++ [']']]

/-- The rows of a table: its name, one row for each column, the conventional columns that it
lacks, and an empty row. -/
def tableRows (t : Table) : List Text :=
  ["Table: ".toList ++ t.name, "  Columns:".toList] ++ t.columns.map columnRow
    ++ missingRows (lackedNames t) ++ [[]]

theorem printed_nil : printed [] = [] := rfl

theorem printed_cons (row : Text) (rows : List Text) :
    printed (row :: rows) = row ++ ['\n'] ++ printed rows := rfl

theorem printed_append (rows rows' : List Text) :
    printed (rows ++ rows') = printed rows ++ printed rows' := List.flatMap_append

theorem printed_flatMap {α : Type} (f : α → List Text) (as : List α) :
    printed (as.flatMap f) = as.flatMap fun a => printed (f a) := List.flatMap_assoc

theorem missingConventional_eq (t : Table) : t.missingConventional = lackedNames t := by
  unfold Table.missingConventional lackedNames
  refine List.filter_congr fun name _ => ?_
  rw [Bool.eq_iff_iff]
  simp

theorem missingLine_eq (t : Table) : missingLine t = printed (missingRows (lackedNames t)) := by
  have hend : "]\n".toList = [']'] ++ ['\n'] := by simp
  unfold missingLine
  rw [missingConventional_eq, hend]
  cases lackedNames t with
  | nil => rfl
  | cons name names =>
    rw [List.isEmpty_cons, if_neg Bool.false_ne_true]
    change _ = printed ["  Missing conventional columns: [".toList ++ _ ++ [']']]
    simp only [printed_cons, printed_nil, List.append_assoc, List.append_nil]

/-- The lines of a table are its rows. -/
theorem tableLines_eq (t : Table) : tableLines t = printed (tableRows t) := by
  have hcolumns : t.columns.flatMap columnLine = printed (t.columns.map columnRow) := by
    rw [printed, List.flatMap_map]
    rfl
  have hfirst : "\n  Columns:\n".toList = ['\n'] ++ ("  Columns:".toList ++ ['\n']) := by simp
  unfold tableLines tableRows
  rw [hcolumns, missingLine_eq, hfirst]
  simp only [printed_append, printed_cons, printed_nil, List.append_assoc, List.append_nil,
    List.nil_append]

theorem flatMap_tableLines (ts : List Table) :
    ts.flatMap tableLines = printed (ts.flatMap tableRows) := by
  rw [printed_flatMap]
  exact congrArg (List.flatMap · ts) (funext tableLines_eq)

/-- The row behind all tables. -/
theorem countLine_eq (n : Nat) :
    countLine n = printed ["Parsed ".toList ++ Text.ofNat n ++ " tables".toList] := by
  have hend : " tables\n".toList = " tables".toList ++ ['\n'] := by simp
  unfold countLine
  simp only [hend, printed_cons, printed_nil, List.append_assoc, List.append_nil]

/-- The row of an error. -/
theorem errorReport_none (message : Text) :
    errorReport message none = printed ["Error: ".toList ++ message] := by
  unfold errorReport
  rw [printed_cons, printed_nil]

end TableScaffold.CommandLine
