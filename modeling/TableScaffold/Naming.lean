import TableScaffold.Text.Case

/-!
# Names in generated code

Tables and columns are named in snake case; generated code wants camel case for
its variables, a capital for its exported names, a naive plural and a route in
kebab case.  Every function is defined for every text, because a quoted SQL name
may hold any character.
-/

namespace TableScaffold.Naming

/-! ## Camel case -/

/-- Lower camel case: the first segment between underscores is kept as written
and every later one begins with a capital. -/
def camel (name : Text) : Text :=
  match Text.splitOn '_' name with
  | [] => []
  | first :: later => first ++ later.flatMap Text.upperHead

/-- The exported name of a table or column: camel case with a capital. -/
def exported (name : Text) : Text := Text.upperHead (camel name)

/-- The reserved words of Go. -/
def goKeywords : List Text :=
  ["break", "case", "chan", "const", "continue", "default", "defer", "else",
    "fallthrough", "for", "func", "go", "goto", "if", "import", "interface", "map",
    "package", "range", "return", "select", "struct", "switch", "type",
    "var"].map String.toList

/-- Whether a name is reserved in Go. -/
def isGoKeyword (name : Text) : Bool := goKeywords.contains name

/-- The local variable for a name: camel case, with an underscore behind it if
that would be a reserved word. -/
def goVariable (name : Text) : Text :=
  if isGoKeyword (camel name) then camel name ++ ['_'] else camel name

/-! ## Plural and path parameter -/

/-- A naive plural: a final `y` becomes `ies`, and all else gets an `s`. -/
def plural (word : Text) : Text :=
  match Text.dropSuffix? ['y'] word with
  | some stem => stem ++ "ies".toList
  | none => word ++ ['s']

/-- The path parameter that carries the id of a row. -/
def idParameter (table : Text) : Text := table ++ "_id".toList

/-! ## Routes -/

/-- The case of the last cased character of the current word. -/
inductive CaseRun where
  /-- no cased character yet -/
  | none
  | lower
  | upper
  deriving DecidableEq, Repr

/-- The run after one more character; a character without case changes nothing. -/
def CaseRun.next (run : CaseRun) (c : Char) : CaseRun :=
  if Text.isLowercase c then .lower else if Text.isUppercase c then .upper else run

/-- Puts a character in front of the first word. -/
def consHead (c : Char) : List Text → List Text
  | [] => [[c]]
  | w :: ws => (c :: w) :: ws

/-- The words of a run of letters and digits.  The first text of the result
continues the word that was being read.  A word ends behind a character if the
run is lower and a capital follows, and in front of a capital if the run before
it is upper and a lower-case character follows. -/
def caseWords (run : CaseRun) : Text → List Text
  | [] => []
  | [c] => [[c]]
  | c :: d :: r =>
    if run.next c = .lower && Text.isUppercase d then [c] :: caseWords .none (d :: r)
    else if run = .upper && Text.isUppercase c && Text.isLowercase d then
      [] :: consHead c (caseWords .none (d :: r))
    else consHead c (caseWords (run.next c) (d :: r))

/-- The words of a name: its runs of letters and digits, cut where the case
changes. -/
def nameWords (name : Text) : List Text :=
  (Text.splitBy (!Text.isAlphanumeric ·) name).flatMap (caseWords .none)

/-- A word in lower case, character by character; a capital sigma at the very
end becomes a final sigma. -/
def lowerWord : Text → Text
  | [] => []
  | [c] => if c = Text.capitalSigma then ['ς'] else Text.lowerOf c
  | c :: d :: r => Text.lowerOf c ++ lowerWord (d :: r)

/-- A name in kebab case. -/
def kebab (name : Text) : Text := Text.join ['-'] ((nameWords name).map lowerWord)

/-- The route of a table. -/
def route (table : Text) : Text := '/' :: kebab table

/-! ## Nothing is lost -/

theorem flatten_consHead (c : Char) (ws : List Text) :
    (consHead c ws).flatten = c :: ws.flatten := by
  cases ws <;> rfl

/-- The words of a run hold its characters in order. -/
theorem flatten_caseWords (run : CaseRun) (t : Text) : (caseWords run t).flatten = t := by
  fun_induction caseWords run t with
  | case1 => rfl
  | case2 => rfl
  | case3 run c d r _ ih => simp [ih]
  | case4 run c d r _ _ ih => simp [flatten_consHead, ih]
  | case5 run c d r _ _ ih => simp [flatten_consHead, ih]

end TableScaffold.Naming
