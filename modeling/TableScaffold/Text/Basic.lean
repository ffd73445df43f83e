/-!
# Texts

A text is the list of its characters, so that every reader in this library is a
recursion on the text it reads.  This module holds what the other modules need
of texts in general: cutting at separators, joining, lines, decimal numerals and
comparison without regard to ASCII case.

`join_splitOn` says that cutting at a character loses nothing but that
character.
-/

namespace TableScaffold

instance decidableEqExcept {ε α : Type} [DecidableEq ε] [DecidableEq α] :
    DecidableEq (Except ε α)
  | .ok a, .ok b => decidable_of_iff (a = b) ⟨congrArg _, Except.ok.inj⟩
  | .error e, .error f => decidable_of_iff (e = f) ⟨congrArg _, Except.error.inj⟩
  | .ok _, .error _ => isFalse nofun
  | .error _, .ok _ => isFalse nofun

/-- A text, as the list of its characters. -/
abbrev Text := List Char

namespace Text

-- characters of a text are tried one by one, not among all characters
instance (priority := 2000) decidableForallMem {p : Char → Prop} [DecidablePred p] (t : Text) :
    Decidable (∀ c ∈ t, p c) :=
  List.decidableBAll p t

instance (priority := 2000) decidableForallMemOption {p : Char → Prop} [DecidablePred p]
    (c? : Option Char) : Decidable (∀ c ∈ c?, p c) :=
  Option.decidableForallMem c?

instance (priority := 2000) decidableExistsMemOption {p : Char → Prop} [DecidablePred p]
    (c? : Option Char) : Decidable (∃ c ∈ c?, p c) :=
  Option.decidableExistsMem c?

/-- The pieces of a text between the characters that satisfy `sep`.  There is
always at least one piece, and pieces may be empty. -/
def splitBy (sep : Char → Bool) : Text → List Text
  | [] => [[]]
  | c :: r =>
    if sep c then [] :: splitBy sep r
    else
      match splitBy sep r with
      | [] => [[c]]
      | p :: ps => (c :: p) :: ps

/-- The pieces of a text between the occurrences of one character. -/
def splitOn (sep : Char) (t : Text) : List Text := splitBy (· == sep) t

/-- The parts in order, with `sep` between neighbours. -/
def join (sep : Text) : List Text → Text
  | [] => []
  | [p] => p
  | p :: q :: ps => p ++ sep ++ join sep (q :: ps)

@[simp] theorem join_nil (sep : Text) : join sep [] = [] := rfl

@[simp] theorem join_singleton (sep p : Text) : join sep [p] = p := rfl

@[simp] theorem join_cons_cons (sep p q : Text) (ps : List Text) :
    join sep (p :: q :: ps) = p ++ sep ++ join sep (q :: ps) := rfl

theorem splitBy_ne_nil (sep : Char → Bool) (t : Text) : splitBy sep t ≠ [] := by
  cases t with
  | nil => simp [splitBy]
  | cons c r =>
    rw [splitBy]
    split
    · simp
    · split <;> simp

/-- Cutting at a character and joining with it gives the text back. -/
theorem join_splitOn (sep : Char) (t : Text) : join [sep] (splitOn sep t) = t := by
  unfold splitOn
  induction t with
  | nil => rfl
  | cons c r ih =>
    rw [splitBy]
    have hne := splitBy_ne_nil (· == sep) r
    cases hs : splitBy (· == sep) r with
    | nil => exact absurd hs hne
    | cons p ps =>
      rw [hs] at ih
      by_cases hc : c = sep
      · simp [hc, ih]
      · cases ps with
        | nil => simpa [hc] using ih
        | cons q qs => simpa [hc] using ih

/-- A line without the carriage return that ends it, if one does. -/
def dropFinalReturn (line : Text) : Text :=
  if line.getLast? = some '\r' then line.dropLast else line

/-- Lines from the pieces between line feeds: every piece that a line feed ends
loses one final carriage return, and the last piece counts only if it is not
empty. -/
def linesOfPieces : List Text → List Text
  | [] => []
  | [last] => if last.isEmpty then [] else [last]
  | p :: q :: ps => dropFinalReturn p :: linesOfPieces (q :: ps)

/-- The lines of a text, without their line ends. -/
def lines (t : Text) : List Text := linesOfPieces (splitOn '\n' t)

/-- The first line of a text, without its line end. -/
def firstLine (t : Text) : Text := (lines t).headD []

/-- The decimal numeral of a natural number. -/
def ofNat (n : Nat) : Text := Nat.toDigits 10 n

/-- Equality without regard to the case of ASCII letters. -/
def eqIgnoringCase (s t : Text) : Bool := s.map Char.toLower == t.map Char.toLower

/-- The text before `suffix`, if the text ends with it. -/
def dropSuffix? (suffix t : Text) : Option Text := List.isSuffixOf? suffix t

/-- The text behind `lead`, if the text begins with it. -/
def dropPrefix? : Text → Text → Option Text
  | [], t => some t
  | _ :: _, [] => none
  | c :: lead, d :: t => if c = d then dropPrefix? lead t else none

theorem dropPrefix?_eq_some {lead t rest : Text} :
    dropPrefix? lead t = some rest ↔ t = lead ++ rest := by
  fun_induction dropPrefix? lead t <;> simp_all [eq_comm]

/-- What is left behind a run of characters is no longer than the text. -/
theorem length_dropWhile_le (p : Char → Bool) (t : Text) :
    (t.dropWhile p).length ≤ t.length :=
  (List.dropWhile_sublist p).length_le

end Text

end TableScaffold
