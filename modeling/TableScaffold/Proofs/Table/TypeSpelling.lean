import TableScaffold.Proofs.Table.ScalarType
import TableScaffold.Proofs.Table.Tokenwise

set_option autoImplicit false

/-!
# Spellings of the type of a column

A column is mapped to the same scalar type however its type is written (`Writes`): the case of
the letters, the blanks and comments between the words, and the groups in parentheses between and
behind them do not matter, as long as at most one group has a word behind it.  What is left of the
entry is read alike wherever it stands (`IsClauses.of_solidTokens`), so another spelling in one
entry changes no other entry either (`ListsAlike`), and the table has the same columns with the
same scalar types (`scalar_of_spelling`).
-/

namespace TableScaffold

open Sql (Lexeme Placed Token textOf)
open Text (AgreeIgnoringCase)
open Written (solid solidTokens solid_map_token)

/-- A column as far as its type is mapped: its name and its scalar type. -/
def Column.typing (c : Column) : Text × ScalarType := (c.name, c.scalar)

namespace Grammar

variable {xs : List Lexeme} {ts ts' part : List Token} {words words' : List Text}

/-! ## Groups behind a type -/

/-- Groups are clauses that stand for nothing. -/
theorem isClauses_groups {groups : List (List Token)} (hgroups : ∀ g ∈ groups, IsGroup g)
    (hxs : solidTokens xs = groups.flatten) (rest : List Token) : IsClauses xs [] rest := by
  induction groups generalizing xs with
  | nil => exact .nil hxs
  | cons g groups ih =>
    rw [List.forall_mem_cons] at hgroups
    rw [List.flatten_cons] at hxs
    obtain ⟨ys, zs, rfl, hys, hzs⟩ := exists_split_tokens g hxs
    have hclause : IsClause ys none (solidTokens zs ++ rest) := .plain (.group (hys ▸ hgroups.1))
    exact .cons hclause (ih hgroups.2 hzs)

theorem closed_groups {groups : List (List Token)} (hgroups : ∀ g ∈ groups, IsGroup g) :
    Closed groups.flatten := by
  induction groups with
  | nil => exact .nil
  | cons g groups ih =>
    rw [List.forall_mem_cons] at hgroups
    rw [List.flatten_cons]
    exact (Closed.group hgroups.1).append (ih hgroups.2)

/-! ## Columns -/

/-- In front of nothing, a part may as well stand in front of a closing parenthesis. -/
theorem onward_closing (rest : List Token) : Onward rest (rest ++ [.rightParen]) := by
  have h := (onward_of_isEnd isEnd_rightParen [] []).append rest
  rwa [List.append_nil] at h

/-- Tokens write a type with the given words in front of what is left of the entry: the words,
with at most one group between or behind them, and any number of groups more behind these. -/
inductive Writes (words : List Text) (part : List Token) : List Token → Prop where
  | intro {ts : List Token} {groups : List (List Token)} : (∀ g ∈ groups, IsGroup g) →
    IsType ts words (groups.flatten ++ part) → Writes words part (ts ++ groups.flatten)

section Writes

variable {value : Text} {quoted : Bool}

/-- Words alone write a type, if neither a word nor a group comes next. -/
theorem Writes.plain (h : AreTypeWords ts words) (hne : words ≠ [])
    (hpart : Ahead (fun t => StopsType t ∧ t ≠ .leftParen) part) : Writes words part ts := by
  have htype : IsType ts words ([].flatten ++ part) := .words h hne hpart
  have hwrites := Writes.intro (List.forall_mem_nil IsGroup) htype
  rwa [List.flatten_nil, List.append_nil] at hwrites

/-- So do words with a group between or behind them, and with any groups behind all words. -/
theorem Writes.grouped {group : List Token} {groups : List (List Token)} (h : AreTypeWords ts words)
    (hne : words ≠ []) (hgroup : IsGroup group) (h' : AreTypeWords ts' words')
    (hgroups : ∀ g ∈ groups, IsGroup g) (hpart : Ahead StopsType part) :
    Writes (words ++ words') part (ts ++ group ++ ts' ++ groups.flatten) := by
  have hstops : Ahead StopsType (groups.flatten ++ part) := by
    cases groups with
    | nil => exact hpart
    | cons g groups =>
      obtain ⟨inner, rfl, -⟩ := hgroups g List.mem_cons_self
      exact ahead_cons.mpr fun hword => Bool.noConfusion hword
  exact .intro hgroups (.group h hne hgroup h' hstops)

theorem Writes.closed (h : Writes words part ts) : Closed ts := by
  cases h with
  | intro hgroups htype => exact htype.closed.append (closed_groups hgroups)

/-- A column with a written type has its words, and what is left of the entry are clauses. -/
theorem Writes.of_isColumn {c : Column} (hts : Writes words part ts)
    (hxs : solidTokens xs = .word value quoted :: (ts ++ part)) (h : IsColumn xs c [.rightParen]) :
    c.name = value ∧ c.sqlType = Text.join [' '] words
      ∧ ∃ ys cs, solidTokens ys = part ∧ IsClauses ys cs [.rightParen] := by
  cases hts with
  | @intro ts groups hgroups htype =>
    cases h with
    | @intro name type clauses _ _ _ cs _ hname htype' hclauses =>
      rw [solidTokens_append, solidTokens_append, hname, List.append_assoc] at hxs
      obtain ⟨rfl, -⟩ := Token.word.inj (List.cons.inj hxs).1
      have htokens : solidTokens type ++ solidTokens clauses = ts ++ groups.flatten ++ part :=
        (List.cons.inj hxs).2
      -- in front of the same end, the types are the same
      have hall : ts ++ (groups.flatten ++ part ++ [.rightParen])
          = solidTokens type ++ (solidTokens clauses ++ [.rightParen]) := by
        rw [← List.append_assoc (solidTokens type), htokens]
        simp only [List.append_assoc]
      obtain ⟨rfl, hrest⟩ := (htype.onward (onward_closing _)).unique htype' hall
      obtain ⟨gs, ys, rfl, hgs, hys⟩ :=
        exists_split_tokens groups.flatten (List.append_cancel_right hrest).symm
      obtain ⟨ds, hds, -⟩ := (isClauses_groups hgroups hgs _).append_iff.mp hclauses
      exact ⟨rfl, rfl, ys, ds, hys, hds⟩

/-- With clauses behind it, a written type makes a column. -/
theorem Writes.exists_isColumn {ys : List Lexeme} {cs : List Constraint}
    (hts : Writes words part ts) (hxs : solidTokens xs = .word value quoted :: (ts ++ part))
    (hys : solidTokens ys = part) (h : IsClauses ys cs [.rightParen]) :
    ∃ c, IsColumn xs c [.rightParen] := by
  cases hts with
  | @intro ts groups hgroups htype =>
    rw [List.append_assoc, ← List.singleton_append] at hxs
    obtain ⟨name, more, rfl, hname, hmore⟩ := exists_split_tokens _ hxs
    obtain ⟨type, clauses, rfl, rfl, hclauses⟩ := exists_split_tokens ts hmore
    obtain ⟨gs, zs, rfl, hgs, hzs⟩ := exists_split_tokens _ hclauses
    obtain ⟨cs', hcs'⟩ := h.of_solidTokens (hzs.trans hys.symm)
    rw [← hclauses] at htype
    have hbehind := (isClauses_groups hgroups hgs _).append hcs'
    rw [← List.append_assoc]
    exact ⟨_, .intro hname (htype.onward (onward_closing _)) hbehind⟩

end Writes

/-! ## Entries and lists of them -/

/-- Entries that define columns with the same name and scalar type, or both none. -/
structure EntriesAlike (p p' : List Token) : Prop where
  closed : Closed p
  ne_nil : p ≠ []
  closed' : Closed p'
  ne_nil' : p' ≠ []
  exists_item {ys ys' : List Lexeme} {c : Option Column} : solidTokens ys = p →
    solidTokens ys' = p' → IsItem ys c →
    ∃ c', IsItem ys' c' ∧ c'.map Column.typing = c.map Column.typing

theorem EntriesAlike.refl {p : List Token} (hp : Closed p) (hne : p ≠ []) : EntriesAlike p p where
  closed := hp
  ne_nil := hne
  closed' := hp
  ne_nil' := hne
  exists_item hys hys' hitem := by
    obtain ⟨c', hitem', houtline⟩ := hitem.of_solidTokens (hys'.trans hys.symm)
    have htyping : Column.typing = Column.typing ∘ Column.outline := rfl
    refine ⟨c', hitem', ?_⟩
    rw [htyping, ← Option.map_map, houtline, Option.map_map]

/-- Columns whose types are written with the same words but for the case of letters. -/
theorem Writes.entriesAlike {value : Text} {quoted : Bool} (hts : Writes words part ts)
    (hts' : Writes words' part ts') (hwords : AgreeIgnoringCase words words') (hpart : Closed part)
    (hname : (Token.word value quoted).isAnyKeyword tableConstraintKeywords = false) :
    EntriesAlike (.word value quoted :: (ts ++ part)) (.word value quoted :: (ts' ++ part)) where
  closed := .cons (isPlain_of_isWord rfl) (hts.closed.append hpart)
  ne_nil := List.cons_ne_nil _ _
  closed' := .cons (isPlain_of_isWord rfl) (hts'.closed.append hpart)
  ne_nil' := List.cons_ne_nil _ _
  exists_item {ys ys' c} hys hys' hitem := by
    have hstarts {zs : List Lexeme} {more : List Token}
        (hzs : solidTokens zs = .word value quoted :: more) :
        startsTableConstraint (solidTokens zs) = false := by
      rw [hzs]
      exact hname
    obtain ⟨c, rfl, hcolumn⟩ := hitem.exists_column (hstarts hys)
    obtain ⟨hc, htype, zs, cs, hzs, hclauses⟩ := hts.of_isColumn hys hcolumn
    obtain ⟨c', hcolumn'⟩ := hts'.exists_isColumn hys' hzs hclauses
    obtain ⟨hc', htype', -⟩ := hts'.of_isColumn hys' hcolumn'
    refine ⟨some c', .column (hstarts hys') hcolumn', congrArg some ?_⟩
    have hscalar : c'.scalar = c.scalar := by
      rw [Column.scalar, Column.scalar, htype, htype', ScalarType.ofSql_join_congr hwords]
    rw [Column.typing, Column.typing, hscalar, hc, hc']

/-- Where the one tokens are read as a column list, the others are, and their columns have the
same names and scalar types. -/
structure ListsAlike (ts ts' : List Token) : Prop where
  exists_entries {xs xs' : List Lexeme} {cs : List Column} {source : Text} {l : Location} :
    solidTokens xs = ts → solidTokens xs' = ts' → AreEntries xs cs → Stands source l xs' →
    ∃ cs' rest, entries source (solid l xs') = .ok (cs', rest)
      ∧ cs'.map Column.typing = cs.map Column.typing

theorem map_typing_congr {cs cs' : List Column}
    (h : cs'.map Column.outline = cs.map Column.outline) :
    cs'.map Column.typing = cs.map Column.typing := by
  have htyping : Column.typing = Column.typing ∘ Column.outline := rfl
  rw [htyping, ← List.map_map, h, List.map_map]

namespace ListsAlike

variable {p p' behind behind' list list' : List Token} {u : Token}

theorem refl (ts : List Token) : ListsAlike ts ts := by
  constructor
  intro xs xs' cs source l hxs hxs' h hstands
  obtain ⟨source₀, l₀, rest, hstands₀, hread⟩ := h
  have hviable : Viable (fun _ => True) (fun source ts => haltRead (entries source ts)) source₀
      (solid l₀ xs) := entries_viable _
  have hsame : (solid l₀ xs).map Placed.token = (solid l xs').map Placed.token := by
    rw [solid_map_token, solid_map_token, hxs, hxs']
  obtain ⟨cs', rest', hread'⟩ := hviable.exists_of_map_eq hread hsame source
  refine ⟨cs', rest', hread', map_typing_congr ?_⟩
  exact (SameOutline.refl ts).columns hxs' hxs ⟨source, l, rest', hstands, hread'⟩
    ⟨source₀, l₀, rest, hstands₀, hread⟩

/-- One entry in front of column lists. -/
theorem cons (hp : EntriesAlike p p') (hu : IsEnd u) (hbehind : ListsAlike behind behind') :
    ListsAlike (p ++ u :: behind) (p' ++ u :: behind') := by
  constructor
  intro xs xs' cs source l hxs hxs' h hstands
  obtain ⟨ys, c, hys, hitem, hrest⟩ := h.uncons hxs hp.closed hp.ne_nil hu
  obtain ⟨ys', more, rfl, hys', hmore⟩ := exists_split_tokens p' hxs'
  obtain ⟨c', hitem', htyping⟩ := hp.exists_item hys hys' hitem
  rw [← solid_map_token (l.after (textOf ys'))] at hmore
  obtain ⟨v, vs, hsolid, rfl, hvs⟩ := List.map_eq_cons_iff.mp hmore
  have hpart : IsPart ys' := ⟨hys' ▸ hp.ne_nil', hys' ▸ hp.closed'⟩
  have hfirst : c'.toList.map Column.typing = c.toList.map Column.typing := by
    rw [← Option.toList_map, ← Option.toList_map, htyping]
  rcases hrest with ⟨hcomma, ⟨zs, ds, hzs, hds, rfl⟩⟩ | ⟨hclosing, rfl⟩
  · obtain ⟨ws, zs', rfl, -, hzs'⟩ := exists_split [v] hsolid
    rw [← hzs', solid_map_token] at hvs
    obtain ⟨ds', rest', hread, hds'⟩ := hbehind.exists_entries hzs hvs hds hstands.right.right
    rw [hzs'] at hread
    refine ⟨c'.toList ++ ds', rest', ?_, ?_⟩
    · exact (entries_part _ _ hstands hpart hsolid hu).mpr
        ⟨c', hitem', .inl ⟨hcomma, ds', hread, rfl⟩⟩
    · rw [List.map_append, List.map_append, hfirst, hds']
  · refine ⟨c'.toList, vs, ?_, hfirst⟩
    exact (entries_part _ _ hstands hpart hsolid hu).mpr
      ⟨c', hitem', .inr ⟨hclosing, rfl, rfl⟩⟩

/-- Entries in front of column lists, with a comma behind each. -/
theorem append {parts : List (List Token)} (hparts : ∀ q ∈ parts, Closed q ∧ q ≠ [])
    (h : ListsAlike behind behind') : ListsAlike (parts.flatMap (· ++ [.comma]) ++ behind)
      (parts.flatMap (· ++ [.comma]) ++ behind') := by
  induction parts with
  | nil => exact h
  | cons q parts ih =>
    rw [List.forall_mem_cons] at hparts
    rw [List.flatMap_cons, List.append_assoc, List.append_assoc, List.append_assoc,
      List.append_assoc]
    exact cons (.refl hparts.1.1 hparts.1.2) isEnd_comma (ih hparts.2)

end ListsAlike

end Grammar

open Grammar

/-! ## Tables -/

/-- Where an entry of a table is replaced by one that is alike, the table has the same columns
with the same scalar types. -/
theorem Table.exists_ofLexemes_of_entriesAlike {xs xs' : List Lexeme} {t : Table}
    (h : Table.ofLexemes xs = .ok t) {lead p p' post : List Token} {u : Token}
    (hlead : LeadsToEntry lead) (hp : EntriesAlike p p') (hu : IsEnd u)
    (hxs : solidTokens xs = lead ++ (p ++ u :: post))
    (hxs' : solidTokens xs' = lead ++ (p' ++ u :: post)) : ∃ t', Table.ofLexemes xs' = .ok t'
      ∧ t'.name = t.name ∧ t'.columns.map Column.typing = t.columns.map Column.typing := by
  cases hlead with
  | intro hheader hname hparts =>
    rw [List.append_assoc, List.append_assoc, List.cons_append] at hxs hxs'
    obtain ⟨rfl, ys, hys, hentries⟩ := exists_areEntries h hheader hname hxs
    obtain ⟨ys', l, hys', hstands, hread⟩ := exists_list hheader hname hxs'
    have hlists := (ListsAlike.cons hp hu (.refl post)).append hparts
    obtain ⟨cs, rest, hcs, htyping⟩ := hlists.exists_entries hys hys' hentries hstands
    exact ⟨⟨t.name, cs⟩, (hread _).mpr ⟨rfl, rest, hcs⟩, rfl, htyping⟩

/-- The scalar type of a SQL type is the same in all its spellings: with other white space and
letters in another case, and with a time zone qualifier behind it.  So a statement that writes the
type of one column with other blanks and comments, with letters in another case, or with other
groups in it and behind it, defines the same columns with the same scalar types. -/
theorem scalar_of_spelling :
    (∀ s t : Text, AgreeIgnoringCase (Text.words s) (Text.words t) →
      ScalarType.ofSql s = ScalarType.ofSql t)
    ∧ (∀ (s t : Text) (qualifier : List Text), ¬ ScalarType.EndsInTimeZone s →
      ScalarType.IsTimeZone qualifier → Text.words t = Text.words s ++ qualifier →
      ScalarType.ofSql t = ScalarType.ofSql s)
    ∧ ∀ (statement statement' : Text) (xs xs' : List Lexeme) (t : Table)
        (lead type type' part post : List Token) (u : Token) (value : Text) (quoted : Bool)
        (words words' : List Text),
      Spells statement xs → Spells statement' xs' → LeadsToEntry lead → IsEnd u →
      solidTokens xs = lead ++ (.word value quoted :: (type ++ part) ++ u :: post) →
      solidTokens xs' = lead ++ (.word value quoted :: (type' ++ part) ++ u :: post) →
      (Token.word value quoted).isAnyKeyword tableConstraintKeywords = false → Closed part →
      Writes words part type → Writes words' part type' → AgreeIgnoringCase words words' →
      Table.parse statement = .ok t →
      ∃ t', Table.parse statement' = .ok t' ∧ t'.name = t.name
        ∧ t'.columns.map Column.typing = t.columns.map Column.typing := by
  refine ⟨fun s t h => ScalarType.ofSql_congr h,
    fun s t qualifier hs hqualifier ht => ScalarType.ofSql_timeZone hs hqualifier ht, ?_⟩
  intro statement statement' xs xs' t lead type type' part post u value quoted words words'
    hspells hspells' hlead hu hxs hxs' hname hpart htype htype' hwords hparse
  rw [Table.parse_of_spells hspells] at hparse
  rw [Table.parse_of_spells hspells']
  exact Table.exists_ofLexemes_of_entriesAlike hparse hlead
    (htype.entriesAlike htype' hwords hpart hname) hu hxs hxs'

/-! ## A type with groups -/

namespace Sample

/-- A table whose second column has the given type. -/
def typed (type : String) : Text :=
  "CREATE TABLE IF NOT EXISTS t (id uuid, a ".toList ++ type.toList ++ " NOT NULL)".toList

/-- The tokens of this table. -/
def typedTokens (type : List Token) : List Token :=
  lead ++ (.word ['a'] false :: (type ++ bare ["NOT", "NULL"]) ++ [.rightParen])

/-- The tokens of a number in parentheses. -/
def number : List Token := [.leftParen, .literal, .rightParen]

theorem isGroup_number : IsGroup number := ⟨[.literal], rfl, rfl⟩

/-- A word that begins no constraint is a word of a type. -/
theorem areTypeWords_bare (ws : List String) (h : ∀ t ∈ bare ws,
    t.isAnyKeyword constraintKeywords = false) : AreTypeWords (bare ws) (ws.map String.toList) := by
  induction ws with
  | nil => exact .nil
  | cons w ws ih =>
    rw [bare, List.map_cons, List.forall_mem_cons] at h
    exact .cons h.1 (ih h.2)

theorem writes_words : Writes ["double".toList, "precision".toList] (bare ["NOT", "NULL"])
    (bare ["double", "precision"]) :=
  .plain (areTypeWords_bare _ (by decide)) (List.cons_ne_nil _ _)
    (ahead_cons.mpr ⟨fun _ => by decide, nofun⟩)

theorem writes_grouped : Writes ["DOUBLE".toList, "Precision".toList] (bare ["NOT", "NULL"])
    (bare ["DOUBLE"] ++ number ++ bare ["Precision"] ++ [number].flatten) :=
  .grouped (areTypeWords_bare ["DOUBLE"] (by decide)) (List.cons_ne_nil _ _) isGroup_number
    (areTypeWords_bare ["Precision"] (by decide)) (List.forall_mem_singleton.mpr isGroup_number)
    (ahead_cons.mpr fun _ => by decide)

end Sample

/-- Two words in capitals, with a comment and a group between them and a group behind them. -/
theorem scalar_of_spelling_precision :
    ScalarType.ofSql "Double \n PRECISION".toList = ScalarType.ofSql "double precision".toList
    ∧ ScalarType.ofSql "timestamp WITH time  Zone".toList = ScalarType.ofSql "timestamp".toList
    ∧ ∃ t t', Table.parse (Sample.typed "double precision") = .ok t
      ∧ Table.parse (Sample.typed "DOUBLE /* wide */ (3) Precision(4)") = .ok t'
      ∧ t'.columns.map Column.typing = t.columns.map Column.typing := by
  obtain ⟨hcase, hzone, hentry⟩ := scalar_of_spelling
  refine ⟨hcase _ _ (Text.agreeIgnoringCase_iff.mpr (by decide)), ?_, ?_⟩
  · have hqualifier : ScalarType.IsTimeZone ["WITH".toList, "time".toList, "Zone".toList] :=
      ⟨"with", by decide, Text.agreeIgnoringCase_iff.mpr (by decide)⟩
    refine hzone _ _ _ ?_ hqualifier (by decide)
    rintro ⟨front, qualifier, hwords, first, -, hagree⟩
    have hlength := congrArg List.length hwords
    rw [List.length_append, hagree.length_eq] at hlength
    have hone : 1 = front.length + 3 := hlength
    omega
  · obtain ⟨xs, hspells, hxs⟩ : ∃ xs, Spells (Sample.typed "double precision") xs
        ∧ solidTokens xs = Sample.typedTokens (Sample.bare ["double", "precision"]) :=
      map_eq_ok.mp (by decide +kernel)
    obtain ⟨xs', hspells', hxs'⟩ : ∃ xs,
        Spells (Sample.typed "DOUBLE /* wide */ (3) Precision(4)") xs ∧ solidTokens xs
          = Sample.typedTokens (Sample.bare ["DOUBLE"] ++ Sample.number
            ++ Sample.bare ["Precision"] ++ [Sample.number].flatten) :=
      map_eq_ok.mp (by decide +kernel)
    obtain ⟨t, ht, -⟩ : ∃ t, Table.parse (Sample.typed "double precision") = .ok t
        ∧ t.name = ['t'] := map_eq_ok.mp (by decide +kernel)
    obtain ⟨t', ht', -, htyping⟩ := hentry _ _ xs xs' t Sample.lead _ _ _ [] .rightParen ['a'] false
      _ _ hspells hspells' Sample.leadsToEntry_lead isEnd_rightParen hxs hxs' (by decide)
      (by decide) Sample.writes_words Sample.writes_grouped
      (Text.agreeIgnoringCase_iff.mpr (by decide)) ht
    exact ⟨t, t', ht, ht', htyping⟩

/-- Of two groups between the words, only the first one is skipped, and the words behind the
second one do not count. -/
theorem not_scalar_of_spelling :
    (Table.parse (Sample.typed "double(3) precision")).map (·.columns.map Column.typing)
      = .ok [("id".toList, .string), ("a".toList, .double)]
    ∧ (Table.parse (Sample.typed "double(3)(4) precision")).map (·.columns.map Column.typing)
      = .ok [("id".toList, .string), ("a".toList, .any)] := by
  constructor <;> decide +kernel

end TableScaffold
