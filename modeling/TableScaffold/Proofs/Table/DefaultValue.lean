import TableScaffold.Proofs.Table.Following
import TableScaffold.Proofs.Table.Listing

set_option autoImplicit false

/-!
# Default values among other constraints

A default value may be put in front of the constraints of a column: it is read as it is
written, and the other constraints are read as before (`Table.parse_default`).  Its commas
stand within parentheses.  Brackets do not count, so a list in brackets ends at its first
comma (`Table.parse_bracketed_default`).
-/

namespace TableScaffold

open Sql (Lexeme Placed Token textOf)
open Written (Expression solidTokens)

namespace Grammar

/-! ## The text of an expression -/

theorem dropWhile_blank {bs xs : List Lexeme} (hbs : solidTokens bs = [])
    (hxs : ∀ x ∈ xs.head?, x.token ≠ .blank) :
    (bs ++ xs).dropWhile (·.token = .blank) = xs := by
  have hblank : ∀ b ∈ bs, decide (b.token = .blank) = true := by
    simpa using solidTokens_eq_nil.mp hbs
  rw [List.dropWhile_append_of_pos hblank]
  cases xs with
  | nil => rfl
  | cons x xs => exact List.dropWhile_cons_of_neg (by simpa using hxs x rfl)

/-- Lexemes that begin and end with a token are kept without the blanks around them. -/
theorem strip_append {lead xs trail : List Lexeme} (hlead : solidTokens lead = [])
    (htrail : solidTokens trail = []) (hne : xs ≠ []) (hfirst : ∀ x ∈ xs.head?, x.token ≠ .blank)
    (hlast : ∀ x ∈ xs.getLast?, x.token ≠ .blank) : strip (lead ++ xs ++ trail) = xs := by
  have hfront : (lead ++ (xs ++ trail)).dropWhile (·.token = .blank) = xs ++ trail := by
    refine dropWhile_blank hlead ?_
    rwa [List.head?_append_of_ne_nil xs hne]
  have hback : (trail.reverse ++ xs.reverse).dropWhile (·.token = .blank) = xs.reverse := by
    refine dropWhile_blank ?_ (by rwa [List.head?_reverse])
    rw [solidTokens_eq_nil] at htrail ⊢
    exact fun x hx => htrail x (List.mem_reverse.mp hx)
  rw [strip, List.append_assoc, hfront, List.reverse_append, hback, List.reverse_reverse]

/-- An expression is spelled as it is written, whatever blanks are around it. -/
theorem spelled_expression (e : Expression) {lead trail : List Lexeme}
    (hlead : solidTokens lead = []) (htrail : solidTokens trail = []) :
    spelled (lead ++ e.lexemes ++ trail) = e.text := by
  have htext : textOf e.lexemes = e.text := Sql.flatten_lexemes e.reads
  rw [spelled, strip_append hlead htrail e.ne_nil e.firstSolid e.lastSolid, htext]
  exact Text.trim_eq_self e.firstVisible e.lastVisible

/-- The tokens of a written expression are an expression. -/
theorem isExpression_expression (e : Expression) : IsExpression (solidTokens e.lexemes) where
  ne_nil := by
    rw [ne_eq, solidTokens_eq_nil]
    obtain ⟨x, more, hx⟩ := List.exists_cons_of_ne_nil e.ne_nil
    intro hblank
    refine e.firstSolid x ?_ (hblank x ?_)
    · rw [hx]
      rfl
    · rw [hx]
      exact List.mem_cons_self
  closed := ⟨e.balanced, e.commas⟩
  keywords := e.keywords

/-! ## Columns -/

/-- A default value as a clause. -/
theorem isClause_expression (e : Expression) {keyword lead trail : List Lexeme} {t : Token}
    {rest : List Token} (hkeyword : solidTokens keyword = [t])
    (ht : t.isKeyword "DEFAULT".toList = true) (hlead : solidTokens lead = [])
    (htrail : solidTokens trail = []) (hrest : Ahead StopsExpression rest) :
    IsClause (keyword ++ (lead ++ e.lexemes ++ trail)) (some (.default e.text)) rest := by
  rw [← spelled_expression e hlead htrail]
  refine .default hkeyword ht ?_ hrest
  rw [solidTokens_append, solidTokens_append, hlead, htrail, List.nil_append, List.append_nil]
  exact isExpression_expression e

end Grammar

open Grammar

/-- Where a default value may stand in a column: behind its name, its type and the first
constraints, and in front of the others. -/
structure Grammar.IsPlace (xs ys : List Lexeme) (c : Column) (cs : List Constraint) : Prop where
  front : IsColumn xs c (solidTokens ys ++ [.rightParen])
  behind : IsClauses ys cs [.rightParen]
  /-- an expression ends in front of the other constraints -/
  stops : Ahead StopsExpression (solidTokens ys ++ [.rightParen])
  /-- the last constraint in front does not lack a name -/
  named : ¬ Nameless (solidTokens xs) (solidTokens ys ++ [.rightParen])

section

variable {xs ys keyword lead trail : List Lexeme} {c : Column} {cs : List Constraint} {k : Token}

theorem Grammar.IsPlace.isColumn (h : IsPlace xs ys c cs) :
    IsColumn (xs ++ ys) { c with constraints := c.constraints ++ cs } [.rightParen] :=
  h.front.append h.behind

/-- A default value at its place is one more constraint. -/
theorem Grammar.IsPlace.isColumn_default (h : IsPlace xs ys c cs) (e : Expression)
    (hkeyword : solidTokens keyword = [k]) (hk : k.isKeyword "DEFAULT".toList = true)
    (hlead : solidTokens lead = []) (htrail : solidTokens trail = []) :
    IsColumn (xs ++ (keyword ++ (lead ++ e.lexemes ++ trail)) ++ ys)
      { c with constraints := c.constraints ++ .default e.text :: cs } [.rightParen] := by
  have hends : EndsPart k := endsPart_of_isKeyword hk (by decide) (by decide) (by decide)
  have hclause := isClause_expression e hkeyword hk hlead htrail h.stops
  have hfront : IsColumn xs c (solidTokens (keyword ++ (lead ++ e.lexemes ++ trail))
      ++ (solidTokens ys ++ [.rightParen])) := by
    rw [solidTokens_append, hkeyword, List.append_assoc]
    exact (h.front.keyword hends hkeyword _).resolve_right fun hname => h.named hname.2
  have hcolumn := (hfront.append hclause.isClauses).append h.behind
  rwa [List.append_assoc c.constraints] at hcolumn

end

/-! ## Tables -/

/-- A default value at a place in a column of a statement that defines a table.  With it
the statement defines the same table, but for one more constraint of that column: the
text of the expression, between the constraints in front of it and those behind it. -/
theorem Table.parse_default {statement statement' : Text} {name : Text}
    {head tail xs ys keyword lead trail : List Lexeme} {es₁ es₂ : List (List Lexeme)}
    {t : Table} {c : Column} {cs : List Constraint} {k : Token} (hhead : IsHead head name)
    (hparts : ∀ x ∈ es₁ ++ (xs ++ ys) :: es₂, IsPart x)
    (hstarts : startsTableConstraint (solidTokens xs) = false) (hplace : IsPlace xs ys c cs)
    (hspells : Spells statement (listing head (es₁ ++ (xs ++ ys) :: es₂) tail))
    (ht : Table.parse statement = .ok t) (e : Expression) (hkeyword : solidTokens keyword = [k])
    (hk : k.isKeyword "DEFAULT".toList = true) (hlead : solidTokens lead = [])
    (htrail : solidTokens trail = []) (hspells' : Spells statement' (listing head
      (es₁ ++ (xs ++ (keyword ++ (lead ++ e.lexemes ++ trail)) ++ ys) :: es₂) tail)) :
    ∃ before behind,
      t.columns = before ++ { c with constraints := c.constraints ++ cs } :: behind
        ∧ Table.parse statement' = .ok { t with columns := before ++
          { c with constraints := c.constraints ++ .default e.text :: cs } :: behind } := by
  have hstarts' (more : List Lexeme) : startsTableConstraint (solidTokens (xs ++ more)) = false :=
    (hplace.front.isPart.startsTableConstraint_append more).trans hstarts
  rw [Table.parse_of_spells hspells] at ht
  obtain ⟨before, d, behind, hcolumn, hcolumns, hreplace⟩ :=
    Table.ofLexemes_replace_column hhead hparts (hstarts' ys) ht
  obtain rfl := hcolumn.unique hplace.isColumn
  refine ⟨before, behind, hcolumns, ?_⟩
  have hdefault := hplace.isColumn_default e hkeyword hk hlead htrail
  rw [Table.parse_of_spells hspells']
  refine (hreplace _ hdefault.isPart ?_ _).mpr ⟨_, hdefault, rfl⟩
  rw [List.append_assoc]
  exact hstarts' _

namespace Sample

/-- A call with a comma between its arguments. -/
def call : Expression where
  text := "f(1, 2)".toList
  lexemes := [word "f", opening, ⟨.literal, ['1']⟩, comma, Written.space, ⟨.literal, ['2']⟩, closing]
  reads := by decide +kernel
  ne_nil := List.cons_ne_nil _ _
  firstSolid := by decide
  lastSolid := by decide
  firstVisible := by decide
  lastVisible := by decide
  singleRow := by decide
  balanced := by decide
  commas := (closed_iff_commas_take.mpr ⟨by decide, by decide⟩).commas
  keywords before token behind h _ _ := by
    have hfree : ∀ t ∈ [Token.word "f".toList false, .leftParen, .literal, .comma, .literal,
        .rightParen], t.isAnyKeyword constraintKeywords = false := by
      decide
    refine hfree token ?_
    change [Token.word "f".toList false, .leftParen, .literal, .comma, .literal, .rightParen] = _ at h
    rw [h]
    exact List.mem_append_right before List.mem_cons_self

/-- The name and the type of a column. -/
def named : List Lexeme := words ["a", "int"]

/-- The constraints of a column. -/
def required : List Lexeme := Written.space :: words ["NOT", "NULL"]

theorem isPlace_required :
    IsPlace named required ⟨"a".toList, "int".toList, []⟩ [.notNull] where
  front := by
    have hname : solidTokens [word "a"] = [.word "a".toList false] := rfl
    have htype : IsType (solidTokens [Written.space, word "int"]) ["int".toList]
        (solidTokens [] ++ (solidTokens required ++ [.rightParen])) := by
      refine .words (.cons (by decide) .nil) (List.cons_ne_nil _ _) ?_
      exact ahead_cons.mpr ⟨fun _ => by decide, nofun⟩
    exact .intro hname htype (.nil rfl)
  behind := by
    have hpair : IsPlainClause (solidTokens required) (some .notNull) [.rightParen] :=
      .pair (t := .word "NOT".toList false) (u := .word "NULL".toList false) .notNull (by decide)
        (by decide)
    exact (IsClause.plain hpair).isClauses
  stops := ahead_cons.mpr (.inr (by decide))
  named h := by
    have hword := ahead_cons.mp h.2
    cases hword

end Sample

theorem Table.parse_default_call :
    Table.parse "CREATE TABLE IF NOT EXISTS s.t (a int NOT NULL)".toList
        = .ok ⟨"t".toList, [⟨"a".toList, "int".toList, [.notNull]⟩]⟩
      ∧ Table.parse "CREATE TABLE IF NOT EXISTS s.t (a int DEFAULT f(1, 2) NOT NULL)".toList
        = .ok ⟨"t".toList,
          [⟨"a".toList, "int".toList, [.default "f(1, 2)".toList, .notNull]⟩]⟩ := by
  have hparts : ∀ e ∈ [] ++ (Sample.named ++ Sample.required) :: [], IsPart e := by
    rw [List.nil_append, List.forall_mem_singleton]
    exact ⟨by decide, by decide⟩
  have hspells : Spells "CREATE TABLE IF NOT EXISTS s.t (a int NOT NULL)".toList
      (listing Sample.head ([] ++ (Sample.named ++ Sample.required) :: []) []) := by
    decide +kernel
  have hspells' : Spells "CREATE TABLE IF NOT EXISTS s.t (a int DEFAULT f(1, 2) NOT NULL)".toList
      (listing Sample.head ([] ++ (Sample.named ++ ([Written.space, Sample.word "DEFAULT"]
        ++ ([Written.space] ++ Sample.call.lexemes ++ [])) ++ Sample.required) :: []) []) := by
    decide +kernel
  have hread : Table.parse "CREATE TABLE IF NOT EXISTS s.t (a int NOT NULL)".toList
      = .ok ⟨"t".toList, [⟨"a".toList, "int".toList, [.notNull]⟩]⟩ := by
    decide +kernel
  have hkeyword : solidTokens [Written.space, Sample.word "DEFAULT"]
      = [.word "DEFAULT".toList false] := rfl
  obtain ⟨before, behind, hcolumns, hdefault⟩ := Table.parse_default Sample.isHead_head hparts
    (by decide) Sample.isPlace_required hspells hread Sample.call hkeyword (by decide) rfl rfl hspells'
  refine ⟨hread, ?_⟩
  cases before with
  | nil =>
    obtain ⟨-, rfl⟩ := List.cons.inj hcolumns
    exact hdefault
  | cons d before => simp at hcolumns

/-- Brackets do not count: the first comma in them ends the expression, and what is behind
it is no column. -/
theorem Table.parse_bracketed_default :
    Table.parse "CREATE TABLE IF NOT EXISTS t (a int)".toList
        = .ok ⟨"t".toList, [⟨"a".toList, "int".toList, []⟩]⟩
      ∧ ∀ t, Table.parse "CREATE TABLE IF NOT EXISTS t (a int DEFAULT ARRAY[1, 2])".toList ≠ .ok t := by
  refine ⟨by decide +kernel, fun t ht => ?_⟩
  have hfault : (Table.parse
      "CREATE TABLE IF NOT EXISTS t (a int DEFAULT ARRAY[1, 2])".toList).isOk = false := by
    decide +kernel
  rw [ht] at hfault
  cases hfault

end TableScaffold
