import TableScaffold.Proofs.Table.Entries

set_option autoImplicit false

/-!
# Column lists, entry by entry

A statement is read as its lexemes are (`Table.ofLexemes`, `Table.parse_of_spells`).
A column list of parts defines the columns that the parts define one by one
(`Table.parse_entry_by_entry`), and a statement that defines a table has a column list
of closed parts, of which only the last one may be empty.
-/

namespace TableScaffold

open Grammar
open Sql (Lexeme Placed Token textOf)
open Written (solid solidTokens solid_append solid_cons solid_map_token)

/-! ## Statements and their lexemes -/

theorem Table.ofTokens_eq_ok {source : Text} {ts : List Placed} {t : Table} :
    Table.ofTokens source ts = .ok t ↔ ∃ body rest, afterHeader? ts = some body
      ∧ table source body = .ok (t, rest) := by
  unfold ofTokens
  constructor
  · intro h
    split at h
    · cases h
    next body hbody =>
    split at h
    · next found rest htable =>
      cases h
      exact ⟨body, rest, hbody, htable⟩
    · cases h
  · rintro ⟨body, rest, hbody, htable⟩
    rw [hbody]
    simp only [htable]

/-- The table that lexemes define. -/
def Table.ofLexemes (xs : List Lexeme) : Except SchemaError Table :=
  Table.ofTokens (textOf xs) (solid Location.start xs)

/-- The lexemes into which a statement falls when its empty rows are dropped. -/
def Spells (statement : Text) (xs : List Lexeme) : Prop :=
  Sql.lexemes false (Text.dropBlankRows statement) = .ok xs

instance (statement : Text) (xs : List Lexeme) : Decidable (Spells statement xs) :=
  inferInstanceAs (Decidable (_ = _))

theorem Table.parse_of_spells {statement : Text} {xs : List Lexeme} (h : Spells statement xs) :
    Table.parse statement = Table.ofLexemes xs := by
  have htokens : Sql.tokens (Text.dropBlankRows statement) = .ok (Sql.place Location.start xs) := by
    rw [Sql.tokens, Sql.lex_eq_ok.mpr h]
    rfl
  have htext : textOf xs = Text.dropBlankRows statement := Sql.flatten_lexemes h
  rw [Table.parse, htokens, Table.ofLexemes, htext]
  rfl

theorem Table.exists_spells_of_parse {statement : Text} {t : Table}
    (h : Table.parse statement = .ok t) : ∃ xs, Spells statement xs := by
  simp only [Table.parse, Sql.tokens] at h
  cases hlex : Sql.lex (Text.dropBlankRows statement) with
  | error e =>
    rw [hlex] at h
    cases h
  | ok xs => exact ⟨xs, Sql.lex_eq_ok.mp hlex⟩

/-! ## Heads -/

namespace Grammar

/-- The keywords in front of a table's name. -/
def IsHeader (ts : List Token) : Prop :=
  List.Forall₂ (fun keyword t => t.isKeyword keyword = true) headerKeywords ts

/-- What stands in front of a column list: the keywords and the table's name. -/
def IsHead (xs : List Lexeme) (name : Text) : Prop :=
  ∃ keywords words, solidTokens xs = keywords ++ words ∧ IsHeader keywords ∧ IsName words name

theorem afterKeywords?_eq_some {keywords : List Text} {ts rest : List Placed} :
    afterKeywords? keywords ts = some rest ↔ ∃ used, ts = used ++ rest
      ∧ List.Forall₂ (fun keyword t => t.isKeyword keyword = true) keywords
        (used.map Placed.token) := by
  induction keywords generalizing ts with
  | nil =>
    rw [afterKeywords?]
    constructor
    · intro h
      cases h
      exact ⟨[], rfl, .nil⟩
    · rintro ⟨used, rfl, hused⟩
      obtain rfl := List.map_eq_nil_iff.mp (List.forall₂_nil_left_iff.mp hused)
      rfl
  | cons keyword keywords ih =>
    rw [afterKeywords?, Option.bind_eq_some_iff]
    constructor
    · rintro ⟨more, hfirst, hmore⟩
      cases ts with
      | nil => cases hfirst
      | cons t r =>
        rw [afterKeyword?] at hfirst
        split at hfirst
        · next ht =>
          cases hfirst
          obtain ⟨used, rfl, hused⟩ := ih.mp hmore
          exact ⟨t :: used, rfl, .cons ht hused⟩
        · cases hfirst
    · rintro ⟨used, rfl, hused⟩
      obtain ⟨_, _, ht, hmore, hused⟩ := List.forall₂_cons_left_iff.mp hused
      obtain ⟨t, more, rfl, rfl, rfl⟩ := List.map_eq_cons_iff.mp hused
      exact ⟨more ++ rest, if_pos ht, ih.mpr ⟨more, rfl, hmore⟩⟩

theorem afterHeader?_append {used rest : List Placed} (h : IsHeader (used.map Placed.token)) :
    afterHeader? (used ++ rest) = some rest := by
  have hkeywords : afterKeywords? headerKeywords (used ++ rest) = some rest :=
    afterKeywords?_eq_some.mpr ⟨used, rfl, h⟩
  cases used with
  | nil => cases h
  | cons t used =>
    rw [List.cons_append] at hkeywords ⊢
    rw [afterHeader?, hkeywords]

theorem exists_header {ts rest : List Placed} (h : afterHeader? ts = some rest) :
    ∃ before used, ts = before ++ used ++ rest ∧ IsHeader (used.map Placed.token) := by
  induction ts with
  | nil => cases h
  | cons t r ih =>
    rw [afterHeader?] at h
    split at h
    · next hkeywords =>
      cases h
      obtain ⟨used, hused, hheader⟩ := afterKeywords?_eq_some.mp hkeywords
      exact ⟨[], used, hused, hheader⟩
    · obtain ⟨before, used, rfl, hheader⟩ := ih h
      exact ⟨t :: before, used, rfl, hheader⟩

/-- A table is a name, an opening parenthesis and a column list. -/
theorem table_sound {source : Text} {ts rest : List Placed} {t : Table}
    (h : table source ts = .ok (t, rest)) : ∃ words u r, ts = words ++ u :: r
      ∧ IsName (words.map Placed.token) t.name ∧ u.token = .leftParen
      ∧ entries source r = .ok (t.columns, rest) := by
  rw [table] at h
  split at h
  · cases h
  · cases h
  · next name u r hname =>
    obtain ⟨words, hts, hwords, -⟩ := qualifiedName_sound hname
    split at h
    · next hu =>
      split at h
      · cases h
      · next columns behind hcolumns =>
        cases h
        exact ⟨words, u, r, hts, hwords, hu, hcolumns⟩
    · cases h

end Grammar

/-! ## Listings -/

/-- A table definition with a column list of the given entries. -/
def listing (head : List Lexeme) (es : List (List Lexeme)) (tail : List Lexeme) : List Lexeme :=
  head ++ opening :: (separated comma es ++ closing :: tail)

section Listings

variable {head tail : List Lexeme} {name : Text} {es : List (List Lexeme)}

/-- Behind its head, a table definition is a column list. -/
theorem Table.ofLexemes_head (hhead : IsHead head name) (ys : List Lexeme) {t : Table} :
    Table.ofLexemes (head ++ opening :: ys) = .ok t ↔ t.name = name
      ∧ ∃ rest, entries (textOf (head ++ opening :: ys))
        (solid (Location.start.after (textOf (head ++ [opening]))) ys) = .ok (t.columns, rest) := by
  obtain ⟨keywords, words, hsolid, hheader, hname⟩ := hhead
  rw [← solid_map_token Location.start] at hsolid
  obtain ⟨ks, ws, hks, rfl, rfl⟩ := List.map_eq_append_iff.mp hsolid
  obtain ⟨u, hu, htokens⟩ : ∃ u, u.token = Token.leftParen
      ∧ solid Location.start (head ++ opening :: ys)
        = ks ++ (ws ++ u :: solid (Location.start.after (textOf (head ++ [opening]))) ys) := by
    refine ⟨⟨.leftParen, Location.start.after (textOf head),
      (Location.start.after (textOf head)).after opening.text⟩, rfl, ?_⟩
    rw [solid_append, hks, solid_cons (by simp [opening]), List.append_assoc, Sql.textOf_append,
      Location.after_append]
    rfl
  have hread := qualifiedName_complete .table
    (u :: solid (Location.start.after (textOf (head ++ [opening]))) ys) hname (by simp [hu])
  rw [Table.ofLexemes, Table.ofTokens, htokens, afterHeader?_append hheader]
  simp only [table, hread, hu, if_true]
  cases entries (textOf (head ++ opening :: ys))
    (solid (Location.start.after (textOf (head ++ [opening]))) ys) with
  | error e =>
    constructor
    · intro h
      cases h
    · rintro ⟨-, _, h⟩
      cases h
  | ok p =>
    constructor
    · intro h
      cases h
      exact ⟨rfl, p.2, rfl⟩
    · rintro ⟨rfl, rest, h⟩
      cases h
      rfl

/-- A listing of parts defines a table exactly if every part is an item. -/
theorem Table.ofLexemes_listing (hhead : IsHead head name) (hes : es ≠ [])
    (hparts : ∀ e ∈ es, IsPart e) {t : Table} : Table.ofLexemes (listing head es tail) = .ok t
      ↔ t.name = name ∧ ∃ items, List.Forall₂ IsItem es items ∧ t.columns = columnsOf items := by
  rw [listing, Table.ofLexemes_head hhead, entries_list hes hparts]
  refine ⟨textOf (head ++ [opening]), [], ?_, rfl⟩
  rw [List.append_nil, ← Sql.textOf_append, List.append_assoc]
  rfl

/-- Where the one list falls into two parts, so does the other. -/
theorem exists_of_forall₂_append {α β : Type} {R : α → β → Prop} {as as' : List α} {bs : List β}
    (h : List.Forall₂ R (as ++ as') bs) :
    ∃ us vs, bs = us ++ vs ∧ List.Forall₂ R as us ∧ List.Forall₂ R as' vs := by
  refine ⟨bs.take as.length, bs.drop as.length, (List.take_append_drop _ _).symm, ?_, ?_⟩
  · exact (List.forall₂_take_append bs as as' h.flip).flip
  · exact (List.forall₂_drop_append bs as as' h.flip).flip

theorem forall₂_append_cons_iff {α β : Type} {R : α → β → Prop} {as as' : List α} {a : α}
    {bs : List β} : List.Forall₂ R (as ++ a :: as') bs ↔ ∃ before b behind,
      bs = before ++ b :: behind ∧ List.Forall₂ R as before ∧ R a b ∧ List.Forall₂ R as' behind := by
  constructor
  · intro h
    obtain ⟨before, more, rfl, hbefore, hmore⟩ := exists_of_forall₂_append h
    obtain ⟨b, behind, hb, hbehind, rfl⟩ := List.forall₂_cons_left_iff.mp hmore
    exact ⟨before, b, behind, rfl, hbefore, hb, hbehind⟩
  · rintro ⟨before, b, behind, rfl, hbefore, hb, hbehind⟩
    exact List.rel_append hbefore (.cons hb hbehind)

theorem Grammar.IsItem.exists_column {e : List Lexeme} {c : Option Column} (h : IsItem e c)
    (he : startsTableConstraint (solidTokens e) = false) :
    ∃ c', c = some c' ∧ IsColumn e c' [.rightParen] := by
  cases h with
  | skipped hstarts =>
    rw [he] at hstarts
    cases hstarts
  | column _ hcolumn => exact ⟨_, rfl, hcolumn⟩

/-- Where one part of a list is replaced, its columns are, and nothing else is. -/
theorem Table.ofLexemes_replace {es₁ es₂ : List (List Lexeme)} {e : List Lexeme} {t : Table}
    (hhead : IsHead head name) (hparts : ∀ x ∈ es₁ ++ e :: es₂, IsPart x)
    (ht : Table.ofLexemes (listing head (es₁ ++ e :: es₂) tail) = .ok t) :
    ∃ columns₁ c columns₂, IsItem e c ∧ t.columns = columns₁ ++ (c.toList ++ columns₂)
      ∧ ∀ e', IsPart e' → ∀ t', Table.ofLexemes (listing head (es₁ ++ e' :: es₂) tail) = .ok t'
        ↔ t'.name = t.name ∧ ∃ c', IsItem e' c' ∧ t'.columns = columns₁ ++ (c'.toList ++ columns₂) := by
  have hne (x : List Lexeme) : es₁ ++ x :: es₂ ≠ [] := by
    simp
  obtain ⟨rfl, items, hitems, hcolumns⟩ := (Table.ofLexemes_listing hhead (hne e) hparts).mp ht
  obtain ⟨items₁, c, items₂, rfl, hitems₁, hc, hitems₂⟩ := forall₂_append_cons_iff.mp hitems
  have hcolumnsOf (c : Option Column) : columnsOf (items₁ ++ c :: items₂)
      = columnsOf items₁ ++ (c.toList ++ columnsOf items₂) := by
    rw [columnsOf, List.flatMap_append, List.flatMap_cons]
    rfl
  have hunique {xs : List (List Lexeme)} {cs cs' : List (Option Column)}
      (h : List.Forall₂ IsItem xs cs) (h' : List.Forall₂ IsItem xs cs') : cs = cs' :=
    List.right_unique_forall₂' (fun _ _ _ h h' => h.unique h') h h'
  refine ⟨columnsOf items₁, c, columnsOf items₂, hc, hcolumns.trans (hcolumnsOf c), ?_⟩
  intro e' he' t'
  have hparts' : ∀ x ∈ es₁ ++ e' :: es₂, IsPart x := by
    rw [List.forall_mem_append, List.forall_mem_cons] at hparts ⊢
    exact ⟨hparts.1, he', hparts.2.2⟩
  rw [Table.ofLexemes_listing hhead (hne e') hparts']
  refine and_congr_right fun _ => ?_
  constructor
  · rintro ⟨items', hitems', heq⟩
    obtain ⟨before, c', behind, rfl, hbefore, hc', hbehind⟩ := forall₂_append_cons_iff.mp hitems'
    rw [hunique hitems₁ hbefore, hunique hitems₂ hbehind] at hcolumnsOf ⊢
    rw [columnsOf, List.flatMap_append, List.flatMap_cons] at heq
    exact ⟨c', hc', heq⟩
  · rintro ⟨c', hc', heq⟩
    exact ⟨items₁ ++ c' :: items₂,
      forall₂_append_cons_iff.mpr ⟨items₁, c', items₂, rfl, hitems₁, hc', hitems₂⟩,
      heq.trans (hcolumnsOf c').symm⟩

/-- Where a column of a list is replaced by another one, nothing else is. -/
theorem Table.ofLexemes_replace_column {es₁ es₂ : List (List Lexeme)} {e : List Lexeme} {t : Table}
    (hhead : IsHead head name) (hparts : ∀ x ∈ es₁ ++ e :: es₂, IsPart x)
    (he : startsTableConstraint (solidTokens e) = false)
    (ht : Table.ofLexemes (listing head (es₁ ++ e :: es₂) tail) = .ok t) :
    ∃ before c behind, IsColumn e c [.rightParen] ∧ t.columns = before ++ c :: behind
      ∧ ∀ e', IsPart e' → startsTableConstraint (solidTokens e') = false → ∀ t',
        Table.ofLexemes (listing head (es₁ ++ e' :: es₂) tail) = .ok t'
          ↔ ∃ c', IsColumn e' c' [.rightParen] ∧ t' = { t with columns := before ++ c' :: behind } := by
  obtain ⟨before, item, behind, hitem, hcolumns, hreplace⟩ := Table.ofLexemes_replace hhead hparts ht
  obtain ⟨c, rfl, hcolumn⟩ := hitem.exists_column he
  refine ⟨before, c, behind, hcolumn, hcolumns, fun e' hpart he' t' => ?_⟩
  rw [hreplace e' hpart t']
  constructor
  · rintro ⟨hname, item', hitem', hcolumns'⟩
    obtain ⟨c', rfl, hcolumn'⟩ := hitem'.exists_column he'
    refine ⟨c', hcolumn', ?_⟩
    rw [← hname]
    exact congrArg (Table.mk t'.name) hcolumns'
  · rintro ⟨c', hcolumn', rfl⟩
    exact ⟨rfl, some c', .column he' hcolumn', rfl⟩

/-- A part alone in a column list defines one column if it is a column, and otherwise
none. -/
theorem Table.ofLexemes_listing_singleton (hhead : IsHead head name) {e : List Lexeme}
    (he : IsPart e) {t : Table} : Table.ofLexemes (listing head [e] tail) = .ok t
      ↔ t.name = name ∧ ∃ c, IsItem e c ∧ t.columns = c.toList := by
  rw [Table.ofLexemes_listing hhead (List.cons_ne_nil e []) (List.forall_mem_singleton.mpr he)]
  refine and_congr_right fun _ => ?_
  constructor
  · rintro ⟨items, hitems, hcolumns⟩
    obtain ⟨c, _, hitem, hnil, rfl⟩ := List.forall₂_cons_left_iff.mp hitems
    obtain rfl := List.forall₂_nil_left_iff.mp hnil
    exact ⟨c, hitem, hcolumns.trans (List.append_nil _)⟩
  · rintro ⟨c, hitem, hcolumns⟩
    exact ⟨[c], .cons hitem .nil, hcolumns.trans (List.append_nil _).symm⟩

/-- What the parts of a list define one by one, they define as items. -/
theorem exists_items (hhead : IsHead head name) (hparts : ∀ e ∈ es, IsPart e)
    {columns : List (List Column)}
    (h : List.Forall₂ (fun e cs => Table.ofLexemes (listing head [e] tail) = .ok ⟨name, cs⟩) es columns) :
    ∃ items, List.Forall₂ IsItem es items ∧ columns = items.map Option.toList := by
  induction h with
  | nil => exact ⟨[], .nil, rfl⟩
  | cons h _ ih =>
    rw [List.forall_mem_cons] at hparts
    obtain ⟨-, c, hitem, rfl⟩ := (Table.ofLexemes_listing_singleton hhead hparts.1).mp h
    obtain ⟨items, hitems, rfl⟩ := ih hparts.2
    exact ⟨c :: items, .cons hitem hitems, rfl⟩

theorem Grammar.IsItem.length_toList {e : List Lexeme} {c : Option Column} (h : IsItem e c) :
    c.toList.length = if startsTableConstraint (solidTokens e) then 0 else 1 := by
  cases h with
  | skipped hstarts => rw [if_pos hstarts]; rfl
  | column hstarts => rw [if_neg (Bool.eq_false_iff.mp hstarts)]; rfl

end Listings

/-- What a table is read from has a header, a name and a column list of closed parts. -/
theorem Table.exists_parts_of_ofLexemes {xs : List Lexeme} {t : Table}
    (h : Table.ofLexemes xs = .ok t) : ∃ before keywords words parts behind,
      solidTokens xs = before ++ keywords ++ words
          ++ .leftParen :: (separated .comma parts ++ .rightParen :: behind)
        ∧ IsHeader keywords ∧ IsName words t.name ∧ (∀ p ∈ parts, Closed p)
        ∧ ∀ p ∈ parts.dropLast, p ≠ [] := by
  rw [Table.ofLexemes, Table.ofTokens] at h
  split at h
  · cases h
  next body hbody =>
  split at h
  · next behind htable =>
    cases h
    obtain ⟨before, used, hxs, hheader⟩ := exists_header hbody
    obtain ⟨words, u, r, rfl, hwords, hu, hread⟩ := table_sound htable
    rw [← List.append_assoc, List.append_cons] at hxs
    obtain ⟨front, list, rfl, hfront, hlist⟩ := exists_split _ hxs
    have hstands : Stands (textOf (front ++ list)) Location.start (front ++ list) :=
      ⟨[], [], by simp, rfl⟩
    rw [← hlist] at hread
    obtain ⟨parts, -, hclosed, hparts, htokens⟩ := entries_closed hstands.right hread
    refine ⟨before.map Placed.token, used.map Placed.token, words.map Placed.token, parts,
      behind.map Placed.token, ?_, hheader, hwords, hclosed, hparts⟩
    rw [solidTokens_append, htokens, ← solid_map_token Location.start front, hfront]
    simp [hu]
  · cases h

/-! ## Entry by entry -/

/-- A column list of parts defines a table exactly if each of its parts alone does, and
then the columns of the parts one after the other: one column for a part that does not
begin as a table constraint, and none for one that does.  A statement is read as its
lexemes are; if it defines a table, then a column list of closed parts stands behind its
name, of which only the last one may be empty. -/
theorem Table.parse_entry_by_entry {head tail : List Lexeme} {name : Text}
    {es : List (List Lexeme)} (hhead : IsHead head name) (hes : es ≠ [])
    (hparts : ∀ e ∈ es, IsPart e) :
    (∀ t, Table.ofLexemes (listing head es tail) = .ok t ↔ t.name = name ∧ ∃ columns,
        List.Forall₂ (fun e cs => Table.ofLexemes (listing head [e] tail) = .ok ⟨name, cs⟩) es columns
          ∧ t.columns = columns.flatten)
      ∧ (∀ e ∈ es, ∀ t, Table.ofLexemes (listing head [e] tail) = .ok t →
        t.columns.length = if startsTableConstraint (solidTokens e) then 0 else 1)
      ∧ (∀ statement xs, Spells statement xs → Table.parse statement = Table.ofLexemes xs)
      ∧ ∀ statement t, Table.parse statement = .ok t → ∃ xs, Spells statement xs
        ∧ ∃ before keywords words parts behind, solidTokens xs = before ++ keywords ++ words
            ++ .leftParen :: (separated .comma parts ++ .rightParen :: behind)
          ∧ IsHeader keywords ∧ IsName words t.name ∧ (∀ p ∈ parts, Closed p)
          ∧ ∀ p ∈ parts.dropLast, p ≠ [] := by
  refine ⟨fun t => ?_, ?_, fun _ _ => Table.parse_of_spells, ?_⟩
  · rw [Table.ofLexemes_listing hhead hes hparts]
    refine and_congr_right fun _ => ?_
    constructor
    · rintro ⟨items, hitems, hcolumns⟩
      refine ⟨items.map Option.toList, ?_, hcolumns⟩
      refine List.forall₂_map_right_iff.mpr (hitems.imp fun e c hitem => ?_)
      exact (Table.ofLexemes_listing_singleton hhead hitem.isPart).mpr ⟨rfl, c, hitem, rfl⟩
    · rintro ⟨columns, hcolumns, heq⟩
      obtain ⟨items, hitems, rfl⟩ := exists_items hhead hparts hcolumns
      exact ⟨items, hitems, heq⟩
  · intro e he t ht
    obtain ⟨-, c, hitem, hcolumns⟩ :=
      (Table.ofLexemes_listing_singleton hhead (hparts e he)).mp ht
    rw [hcolumns]
    exact hitem.length_toList
  · intro statement t ht
    obtain ⟨xs, hxs⟩ := Table.exists_spells_of_parse ht
    rw [Table.parse_of_spells hxs] at ht
    exact ⟨xs, hxs, Table.exists_parts_of_ofLexemes ht⟩

/-! ## A list with a table constraint -/

namespace Sample

/-- A word without quotes. -/
def word (w : String) : Lexeme := ⟨.word w.toList false, w.toList⟩

/-- Words with spaces between them. -/
def words (ws : List String) : List Lexeme :=
  separated Written.space (ws.map fun w => [word w])

/-- The head of a table in a schema. -/
def head : List Lexeme :=
  words ["CREATE", "TABLE", "IF", "NOT", "EXISTS", "s"] ++ [⟨.period, ['.']⟩, word "t", Written.space]

theorem isHead_head : IsHead head "t".toList := by
  refine ⟨_, [.word "s".toList false, .period, .word "t".toList false],
    (rfl : _ = ["CREATE", "TABLE", "IF", "NOT", "EXISTS"].map (Token.word ·.toList false) ++ _), ?_, ?_⟩
  · simp only [IsHeader, headerKeywords, List.forall₂_map_left_iff, List.forall₂_map_right_iff]
    exact List.forall₂_same.mpr (by decide)
  · exact .qualified _ _ (.word _ _)

/-- A column with a default value, in which there is a comma. -/
def defaulted : List Lexeme :=
  words ["a", "int", "DEFAULT", "f"] ++ [opening, ⟨.literal, ['1']⟩, comma, ⟨.literal, ['2']⟩, closing]

/-- A constraint of the whole table. -/
def primary : List Lexeme := words ["PRIMARY", "KEY"] ++ [opening, word "a", closing]

/-- A column with a precision and a constraint. -/
def precise : List Lexeme :=
  words ["b", "numeric"] ++ [opening, ⟨.literal, ['9']⟩, closing, Written.space]
    ++ words ["NOT", "NULL"]

end Sample

theorem Table.parse_entry_by_entry_sample :
    IsHead Sample.head "t".toList
      ∧ (∀ e ∈ [Sample.defaulted, Sample.primary, Sample.precise], IsPart e)
      ∧ Spells "CREATE TABLE IF NOT EXISTS s.t (a int DEFAULT f(1,2),PRIMARY KEY(a),b numeric(9) NOT NULL)".toList
        (listing Sample.head [Sample.defaulted, Sample.primary, Sample.precise] [])
      ∧ Table.ofLexemes (listing Sample.head [Sample.defaulted, Sample.primary, Sample.precise] [])
        = .ok ⟨"t".toList, [⟨"a".toList, "int".toList, [.default "f(1,2)".toList]⟩,
          ⟨"b".toList, "numeric".toList, [.notNull]⟩]⟩ := by
  have hparts : ∀ e ∈ [Sample.defaulted, Sample.primary, Sample.precise], IsPart e := by
    simp only [List.forall_mem_cons]
    exact ⟨⟨by decide, by decide⟩, ⟨by decide, by decide⟩, ⟨by decide, by decide⟩, nofun⟩
  refine ⟨Sample.isHead_head, hparts, by decide +kernel, ?_⟩
  refine ((Table.parse_entry_by_entry Sample.isHead_head (by decide) hparts).1 _).mpr ⟨rfl, ?_⟩
  refine ⟨[[⟨"a".toList, "int".toList, [.default "f(1,2)".toList]⟩], [],
    [⟨"b".toList, "numeric".toList, [.notNull]⟩]], .cons ?_ (.cons ?_ (.cons ?_ .nil)), rfl⟩ <;>
  decide +kernel

end TableScaffold
