import TableScaffold.Proofs.Table.Nesting

set_option autoImplicit false

/-!
# The grammar without its readers

What the parts of a column list are, as relations between lexemes and what they
mean.  The last argument of a relation holds the tokens behind the part, of which
the next one may not go on with the part.  Nothing here knows where in a text the
lexemes stand: a default value is the text of its own lexemes (`spelled`).

Every part is closed, and a part that may stand in front of some token may stand in
front of a comma or closing parenthesis (`Onward`).
-/

namespace TableScaffold.Grammar

open Sql (Lexeme Token)
open Written (parenDepth solidTokens)

/-! ## What comes next -/

/-- The next token, if there is one, has the property. -/
def Ahead (P : Token → Prop) (rest : List Token) : Prop := ∀ t ∈ rest.head?, P t

@[simp] theorem ahead_cons {P : Token → Prop} {t : Token} {rest : List Token} :
    Ahead P (t :: rest) ↔ P t := by
  simp [Ahead]

@[simp] theorem ahead_nil {P : Token → Prop} : Ahead P [] := by
  simp [Ahead]

/-- Tokens that begin like others, or with the end of a part. -/
def Onward (rest rest' : List Token) : Prop :=
  rest'.head? = rest.head? ∨ ∃ t, rest'.head? = some t ∧ IsEnd t

theorem Onward.append {rest rest' : List Token} (h : Onward rest rest') (ts : List Token) :
    Onward (ts ++ rest) (ts ++ rest') := by
  cases ts with
  | nil => exact h
  | cons t ts => exact .inl rfl

theorem onward_of_isEnd {t : Token} (h : IsEnd t) (rest rest' : List Token) :
    Onward rest (t :: rest') := .inr ⟨t, rfl, h⟩

theorem Ahead.onward {P : Token → Prop} {rest rest' : List Token} (h : Ahead P rest)
    (hend : ∀ t, IsEnd t → P t) (honward : Onward rest rest') : Ahead P rest' := by
  intro t ht
  rcases honward with heq | ⟨u, hu, hisEnd⟩
  · exact h t (heq ▸ ht)
  · obtain rfl : u = t := Option.some.inj (hu.symm.trans ht)
    exact hend u hisEnd

theorem IsEnd.isKeyword {t : Token} (h : IsEnd t) (keyword : Text) :
    t.isKeyword keyword = false := by
  rcases h with rfl | rfl <;> rfl

theorem IsEnd.isWord {t : Token} (h : IsEnd t) : t.isWord = false := by
  rcases h with rfl | rfl <;> rfl

theorem isPlain_of_isWord {t : Token} (h : t.isWord = true) : IsPlain t := by
  cases t with
  | word value quoted => exact ⟨nofun, nofun, nofun⟩
  | _ => cases h

theorem isWord_of_isKeyword {t : Token} {keyword : Text} (h : t.isKeyword keyword = true) :
    t.isWord = true := by
  cases t with
  | word value quoted => rfl
  | _ => cases h

/-! ## Names -/

/-- A name with qualifiers, of which the last part counts. -/
inductive IsName : List Token → Text → Prop where
  | word (value : Text) (quoted : Bool) : IsName [.word value quoted] value
  | qualified (value : Text) (quoted : Bool) {ts : List Token} {name : Text} :
    IsName ts name → IsName (.word value quoted :: .period :: ts) name

theorem IsName.closed {ts : List Token} {name : Text} (h : IsName ts name) : Closed ts := by
  induction h with
  | word value quoted => exact .singleton (isPlain_of_isWord rfl)
  | qualified value quoted _ ih =>
    exact .cons (isPlain_of_isWord rfl) (.cons ⟨nofun, nofun, nofun⟩ ih)

/-! ## Types -/

/-- Words of a type, none of which is taken for the beginning of a constraint. -/
inductive AreTypeWords : List Token → List Text → Prop where
  | nil : AreTypeWords [] []
  | cons {value : Text} {quoted : Bool} {ts : List Token} {words : List Text} :
    (Token.word value quoted).isAnyKeyword constraintKeywords = false →
    AreTypeWords ts words → AreTypeWords (.word value quoted :: ts) (value :: words)

/-- A token at which the words of a type end. -/
def StopsType (t : Token) : Prop := t.isWord = true → t.isAnyKeyword constraintKeywords = true

/-- The words of a type, with or without a group behind the first words. -/
inductive IsType : List Token → List Text → List Token → Prop where
  | words {ts rest : List Token} {words : List Text} : AreTypeWords ts words → words ≠ [] →
    Ahead (fun t => StopsType t ∧ t ≠ .leftParen) rest → IsType ts words rest
  | group {ts group ts' rest : List Token} {words words' : List Text} : AreTypeWords ts words →
    words ≠ [] → IsGroup group → AreTypeWords ts' words' → Ahead StopsType rest →
    IsType (ts ++ group ++ ts') (words ++ words') rest

theorem AreTypeWords.closed {ts : List Token} {words : List Text} (h : AreTypeWords ts words) :
    Closed ts := by
  induction h with
  | nil => exact .nil
  | cons _ _ ih => exact .cons (isPlain_of_isWord rfl) ih

theorem IsEnd.stopsType {t : Token} (h : IsEnd t) : StopsType t := by
  intro hword
  rw [h.isWord] at hword
  cases hword

namespace IsType

variable {ts rest rest' : List Token} {words : List Text}

theorem closed (h : IsType ts words rest) : Closed ts := by
  cases h with
  | words h => exact h.closed
  | group h _ hgroup h' => exact (h.closed.append (.group hgroup)).append h'.closed

theorem onward (h : IsType ts words rest) (honward : Onward rest rest') :
    IsType ts words rest' := by
  cases h with
  | words h hne hrest =>
    refine .words h hne (hrest.onward (fun t ht => ⟨ht.stopsType, ?_⟩) honward)
    rcases ht with rfl | rfl <;> nofun
  | group h hne hgroup h' hrest =>
    exact .group h hne hgroup h' (hrest.onward (fun t ht => ht.stopsType) honward)

end IsType

/-! ## Default values -/

/-- Lexemes without the blanks around them. -/
def strip (xs : List Lexeme) : List Lexeme :=
  ((xs.dropWhile (·.token = .blank)).reverse.dropWhile (·.token = .blank)).reverse

/-- The text of an expression from its first to its last token. -/
def spelled (xs : List Lexeme) : Text := Text.trim (Sql.textOf (strip xs))

/-- The tokens of an expression: behind the first of them, the keywords of constraints
stand within parentheses. -/
structure IsExpression (ts : List Token) : Prop where
  ne_nil : ts ≠ []
  closed : Closed ts
  keywords : ∀ before token behind, ts = before ++ token :: behind → before ≠ [] →
    parenDepth 0 before = some 0 → token.isAnyKeyword constraintKeywords = false

/-- A token at which an expression ends. -/
def StopsExpression (t : Token) : Prop := IsEnd t ∨ t.isAnyKeyword constraintKeywords = true

/-! ## Clauses -/

/-- The word with which tokens begin. -/
def firstWord? : List Token → Option Text
  | .word value _ :: _ => some value
  | _ => none

/-- What stands behind the keyword of a reference. -/
inductive IsReference : List Token → Constraint → List Token → Prop where
  | table {ts rest : List Token} {name : Text} : IsName ts name →
    Ahead (fun t => t ≠ .period ∧ t ≠ .leftParen) rest → IsReference ts (.references name none) rest
  | column {ts group rest : List Token} {name : Text} : IsName ts name → IsGroup group →
    IsReference (ts ++ group) (.references name (firstWord? group.tail)) rest

/-- A keyword that is a constraint by itself. -/
inductive IsSingle : String → Constraint → Prop where
  | null : IsSingle "NULL" .null
  | unique : IsSingle "UNIQUE" .unique

/-- Two keywords that are a constraint together. -/
inductive IsPair : String → String → Constraint → Prop where
  | notNull : IsPair "NOT" "NULL" .notNull
  | primaryKey : IsPair "PRIMARY" "KEY" .primaryKey

/-- The words with which a clause begins that is not skipped token by token. -/
def clauseKeywords : List String :=
  ["NOT", "NULL", "PRIMARY", "UNIQUE", "DEFAULT", "REFERENCES", "CONSTRAINT"]

/-- A clause that is no default value, and the constraint it stands for, if any. -/
inductive IsPlainClause : List Token → Option Constraint → List Token → Prop where
  | group {ts rest : List Token} : IsGroup ts → IsPlainClause ts none rest
  | single {keyword : String} {c : Constraint} {t : Token} {rest : List Token} :
    IsSingle keyword c → t.isKeyword keyword.toList = true → IsPlainClause [t] (some c) rest
  | pair {first second : String} {c : Constraint} {t u : Token} {rest : List Token} :
    IsPair first second c → t.isKeyword first.toList = true → u.isKeyword second.toList = true →
    IsPlainClause [t, u] (some c) rest
  /-- without the second keyword, the first stands for nothing -/
  | half {first second : String} {c : Constraint} {t : Token} {rest : List Token} :
    IsPair first second c → t.isKeyword first.toList = true →
    Ahead (fun u => u.isKeyword second.toList = false) rest → IsPlainClause [t] none rest
  | reference {t : Token} {ts rest : List Token} {c : Constraint} :
    t.isKeyword "REFERENCES".toList = true → IsReference ts c rest →
    IsPlainClause (t :: ts) (some c) rest
  /-- the name of a constraint is skipped -/
  | named {t u : Token} {rest : List Token} : t.isKeyword "CONSTRAINT".toList = true →
    u.isWord = true → IsPlainClause [t, u] none rest
  | nameless {t : Token} {rest : List Token} : t.isKeyword "CONSTRAINT".toList = true →
    Ahead (fun u => u.isWord = false) rest → IsPlainClause [t] none rest
  /-- any other token is skipped -/
  | other {t : Token} {rest : List Token} : IsPlain t →
    (∀ keyword ∈ clauseKeywords, t.isKeyword keyword.toList = false) →
    IsPlainClause [t] none rest

/-- A clause and the constraint it stands for, if any. -/
inductive IsClause : List Lexeme → Option Constraint → List Token → Prop where
  | plain {xs : List Lexeme} {c : Option Constraint} {rest : List Token} :
    IsPlainClause (solidTokens xs) c rest → IsClause xs c rest
  | default {keyword value : List Lexeme} {t : Token} {rest : List Token} :
    solidTokens keyword = [t] → t.isKeyword "DEFAULT".toList = true →
    IsExpression (solidTokens value) → Ahead StopsExpression rest →
    IsClause (keyword ++ value) (some (.default (spelled value))) rest

/-- Clauses in a row, with the constraints they stand for. -/
inductive IsClauses : List Lexeme → List Constraint → List Token → Prop where
  | nil {xs : List Lexeme} {rest : List Token} : solidTokens xs = [] → IsClauses xs [] rest
  | cons {xs ys : List Lexeme} {c : Option Constraint} {cs : List Constraint}
    {rest : List Token} : IsClause xs c (solidTokens ys ++ rest) → IsClauses ys cs rest →
    IsClauses (xs ++ ys) (c.toList ++ cs) rest

/-! ## Entries -/

/-- A column: its name, its type and its clauses. -/
inductive IsColumn : List Lexeme → Column → List Token → Prop where
  | intro {name type clauses : List Lexeme} {value : Text} {quoted : Bool} {words : List Text}
    {cs : List Constraint} {rest : List Token} : solidTokens name = [.word value quoted] →
    IsType (solidTokens type) words (solidTokens clauses ++ rest) → IsClauses clauses cs rest →
    IsColumn (name ++ type ++ clauses) ⟨value, Text.join [' '] words, cs⟩ rest

/-- Whether tokens begin with the keyword of a table constraint. -/
def startsTableConstraint (ts : List Token) : Bool :=
  ts.head?.any (Token.isAnyKeyword tableConstraintKeywords)

@[simp] theorem startsTableConstraint_cons (t : Token) (ts : List Token) :
    startsTableConstraint (t :: ts) = t.isAnyKeyword tableConstraintKeywords := rfl

/-- An entry of a column list: a table constraint, which is skipped, or a column. -/
inductive IsItem : List Lexeme → Option Column → Prop where
  | skipped {xs : List Lexeme} : startsTableConstraint (solidTokens xs) = true →
    Closed (solidTokens xs) → IsItem xs none
  | column {xs : List Lexeme} {c : Column} : startsTableConstraint (solidTokens xs) = false →
    IsColumn xs c [.rightParen] → IsItem xs (some c)

/-! ## Parts are closed -/

@[simp] theorem solidTokens_append (xs ys : List Lexeme) :
    solidTokens (xs ++ ys) = solidTokens xs ++ solidTokens ys := by
  simp [solidTokens]

theorem IsReference.closed {ts rest : List Token} {c : Constraint} (h : IsReference ts c rest) :
    Closed ts := by
  cases h with
  | table h => exact h.closed
  | column h hgroup => exact h.closed.append (.group hgroup)

theorem IsPlainClause.closed {ts rest : List Token} {c : Option Constraint}
    (h : IsPlainClause ts c rest) : Closed ts := by
  have hword {t : Token} {keyword : Text} (h : t.isKeyword keyword = true) : IsPlain t :=
    isPlain_of_isWord (isWord_of_isKeyword h)
  cases h with
  | group h => exact .group h
  | single _ ht => exact .singleton (hword ht)
  | pair _ ht hu => exact .cons (hword ht) (.singleton (hword hu))
  | half _ ht => exact .singleton (hword ht)
  | reference ht hts => exact .cons (hword ht) hts.closed
  | named ht hu => exact .cons (hword ht) (.singleton (isPlain_of_isWord hu))
  | nameless ht => exact .singleton (hword ht)
  | other ht => exact .singleton ht

theorem IsClause.closed {xs : List Lexeme} {c : Option Constraint} {rest : List Token}
    (h : IsClause xs c rest) : Closed (solidTokens xs) := by
  cases h with
  | plain h => exact h.closed
  | default hkeyword ht hvalue =>
    rw [solidTokens_append, hkeyword]
    exact .cons (isPlain_of_isWord (isWord_of_isKeyword ht)) hvalue.closed

theorem IsClauses.closed {xs : List Lexeme} {cs : List Constraint} {rest : List Token}
    (h : IsClauses xs cs rest) : Closed (solidTokens xs) := by
  induction h with
  | nil h =>
    rw [h]
    exact .nil
  | cons h _ ih =>
    rw [solidTokens_append]
    exact h.closed.append ih

theorem IsColumn.closed {xs : List Lexeme} {c : Column} {rest : List Token}
    (h : IsColumn xs c rest) : Closed (solidTokens xs) := by
  cases h with
  | intro hname htype hclauses =>
    rw [solidTokens_append, solidTokens_append, hname]
    exact (Closed.singleton (isPlain_of_isWord rfl)).append htype.closed |>.append hclauses.closed

theorem IsItem.closed {xs : List Lexeme} {c : Option Column} (h : IsItem xs c) :
    Closed (solidTokens xs) := by
  cases h with
  | skipped _ h => exact h
  | column _ h => exact h.closed

/-! ## Clauses are not empty -/

theorem IsClause.exists_cons {xs : List Lexeme} {c : Option Constraint} {rest : List Token}
    (h : IsClause xs c rest) : ∃ t ts, solidTokens xs = t :: ts := by
  cases h with
  | plain h =>
    generalize solidTokens xs = ts at h
    cases h with
    | group h =>
      obtain ⟨inner, rfl, -⟩ := h
      exact ⟨_, _, rfl⟩
    | _ => exact ⟨_, _, rfl⟩
  | default hkeyword =>
    rw [solidTokens_append, hkeyword]
    exact ⟨_, _, rfl⟩

theorem IsClauses.eq_nil_of_blank {xs : List Lexeme} {cs : List Constraint} {rest : List Token}
    (h : IsClauses xs cs rest) (hxs : solidTokens xs = []) : cs = [] := by
  cases h with
  | nil => rfl
  | cons h _ =>
    obtain ⟨t, ts, ht⟩ := h.exists_cons
    rw [solidTokens_append, ht] at hxs
    cases hxs

/-! ## What may stand behind a part -/

section Onward

variable {xs ys : List Lexeme} {rest rest' : List Token}

theorem IsReference.onward {ts : List Token} {c : Constraint} (h : IsReference ts c rest)
    (honward : Onward rest rest') : IsReference ts c rest' := by
  cases h with
  | table h hrest =>
    refine .table h (hrest.onward ?_ honward)
    rintro t (rfl | rfl) <;> exact ⟨nofun, nofun⟩
  | column h hgroup => exact .column h hgroup

theorem IsPlainClause.onward {ts : List Token} {c : Option Constraint}
    (h : IsPlainClause ts c rest) (honward : Onward rest rest') : IsPlainClause ts c rest' := by
  cases h with
  | group h => exact .group h
  | single h ht => exact .single h ht
  | pair h ht hu => exact .pair h ht hu
  | half h ht hrest => exact .half h ht (hrest.onward (fun t ht => ht.isKeyword _) honward)
  | reference ht h => exact .reference ht (h.onward honward)
  | named ht hu => exact .named ht hu
  | nameless ht hrest => exact .nameless ht (hrest.onward (fun t ht => ht.isWord) honward)
  | other ht h => exact .other ht h

theorem IsClause.onward {c : Option Constraint} (h : IsClause xs c rest)
    (honward : Onward rest rest') : IsClause xs c rest' := by
  cases h with
  | plain h => exact .plain (h.onward honward)
  | default hkeyword ht hvalue hrest =>
    exact .default hkeyword ht hvalue (hrest.onward (fun t ht => .inl ht) honward)

theorem IsClauses.onward {cs : List Constraint} (h : IsClauses xs cs rest)
    (honward : Onward rest rest') : IsClauses xs cs rest' := by
  induction h with
  | nil h => exact .nil h
  | cons h _ ih => exact .cons (h.onward (honward.append _)) (ih honward)

theorem IsColumn.onward {c : Column} (h : IsColumn xs c rest) (honward : Onward rest rest') :
    IsColumn xs c rest' := by
  cases h with
  | intro hname htype hclauses =>
    exact .intro hname (htype.onward (honward.append _)) (hclauses.onward honward)

end Onward

/-! ## Clauses behind clauses -/

theorem IsClause.blank_append {bs xs : List Lexeme} {c : Option Constraint} {rest : List Token}
    (h : IsClause xs c rest) (hbs : solidTokens bs = []) : IsClause (bs ++ xs) c rest := by
  cases h with
  | plain h => exact .plain (by rwa [solidTokens_append, hbs])
  | default hkeyword ht hvalue hrest =>
    rw [← List.append_assoc]
    exact .default (by rw [solidTokens_append, hbs, hkeyword, List.nil_append]) ht hvalue hrest

theorem IsClauses.blank_append {bs xs : List Lexeme} {cs : List Constraint} {rest : List Token}
    (h : IsClauses xs cs rest) (hbs : solidTokens bs = []) : IsClauses (bs ++ xs) cs rest := by
  cases h with
  | nil h => exact .nil (by rw [solidTokens_append, hbs, h, List.nil_append])
  | cons h hmore =>
    rw [← List.append_assoc]
    exact .cons (h.blank_append hbs) hmore

theorem IsClause.isClauses {xs : List Lexeme} {c : Option Constraint} {rest : List Token}
    (h : IsClause xs c rest) : IsClauses xs c.toList rest := by
  have hcons : IsClauses (xs ++ []) (c.toList ++ []) rest := .cons h (.nil rfl)
  rwa [List.append_nil, List.append_nil] at hcons

theorem IsClauses.append {xs ys : List Lexeme} {cs ds : List Constraint} {rest : List Token}
    (h : IsClauses xs cs (solidTokens ys ++ rest)) (hys : IsClauses ys ds rest) :
    IsClauses (xs ++ ys) (cs ++ ds) rest := by
  generalize hmore : solidTokens ys ++ rest = more at h
  induction h with
  | nil h => exact hys.blank_append h
  | cons h hxs ih =>
    subst hmore
    rw [List.append_assoc, List.append_assoc]
    refine .cons ?_ (ih rfl)
    rwa [solidTokens_append, List.append_assoc]

/-- Clauses behind a column are clauses of it. -/
theorem IsColumn.append {xs ys : List Lexeme} {c : Column} {cs : List Constraint}
    {rest : List Token} (h : IsColumn xs c (solidTokens ys ++ rest)) (hys : IsClauses ys cs rest) :
    IsColumn (xs ++ ys) { c with constraints := c.constraints ++ cs } rest := by
  cases h with
  | intro hname htype hclauses =>
    rw [List.append_assoc]
    refine .intro hname ?_ (hclauses.append hys)
    rwa [solidTokens_append, List.append_assoc]

end TableScaffold.Grammar
