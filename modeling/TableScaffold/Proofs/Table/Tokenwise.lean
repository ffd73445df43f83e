import TableScaffold.Proofs.Table.Earliest
import TableScaffold.Proofs.Table.Outline

set_option autoImplicit false

/-!
# Tables by their tokens

Whether lexemes define a table is told by their tokens: blanks between them and the places
where they stand do not matter, and the table is the same but for the texts of its constraints
(`Table.exists_ofLexemes`).  So it is for each entry of it (`IsItem.of_solidTokens`).
-/

namespace TableScaffold

open Sql (Lexeme Placed Token textOf)
open Written (solid solidTokens solid_map_token)

namespace Grammar

variable {source : Text} {ts body rest : List Placed}

/-! ## The first header -/

/-- The first header stands no further back than any other one. -/
theorem suffix_of_afterHeader? {before keywords : List Placed}
    (hkeywords : IsHeader (keywords.map Placed.token))
    (h : afterHeader? (before ++ (keywords ++ rest)) = some body) : rest <:+ body := by
  induction before with
  | nil =>
    rw [List.nil_append, afterHeader?_append hkeywords] at h
    obtain rfl := Option.some.inj h
    exact List.suffix_rfl
  | cons t before ih =>
    rw [List.cons_append, afterHeader?] at h
    split at h
    · next hfirst =>
      -- both are what is left of the tokens, and a header is no longer than what is in front of `rest`
      cases h
      obtain ⟨used, hused, hheader⟩ := afterKeywords?_eq_some.mp hfirst
      have hlength : used.length = keywords.length := by
        have hsame := hkeywords.length_keywords.trans hheader.length_eq
        rw [List.length_map, List.length_map] at hsame
        exact hsame.symm
      have hrest : rest <:+ t :: (before ++ (keywords ++ rest)) :=
        ((List.suffix_append keywords rest).trans (List.suffix_append before _)).trans
          (List.suffix_cons t _)
      refine List.suffix_of_suffix_length_le hrest ⟨used, hused.symm⟩ ?_
      have htotal := congrArg List.length hused
      simp only [List.length_cons, List.length_append] at htotal
      omega
    · exact ih h

/-- The tokens up to where the first header ends. -/
theorem endsInHeader_of_afterHeader? {front : List Placed}
    (h : afterHeader? (front ++ body) = some body) : EndsInHeader (front.map Placed.token) where
  header := by
    obtain ⟨before, used, hsplit, hused⟩ := exists_header h
    obtain rfl := List.append_cancel_right hsplit
    exact ⟨before.map Placed.token, _, List.map_append, hused⟩
  first := by
    intro before keywords behind hsplit hkeywords
    rw [List.append_assoc] at hsplit
    obtain ⟨before, more, rfl, rfl, hmore⟩ := List.map_eq_append_iff.mp hsplit
    obtain ⟨keywords, behind, rfl, rfl, rfl⟩ := List.map_eq_append_iff.mp hmore
    rw [List.append_assoc, List.append_assoc] at h
    have hlength := (suffix_of_afterHeader? hkeywords h).length_le
    rw [List.length_append] at hlength
    rw [List.map_eq_nil_iff]
    exact List.eq_nil_of_length_eq_zero (by omega)

/-! ## The same tokens elsewhere -/

/-- The same tokens go along with each other as far as one likes. -/
theorem Along.of_map_eq {left ts' : List Placed} (hleft : left <:+ ts)
    (h : ts.map Placed.token = ts'.map Placed.token) : ∃ left', Along left left' ts ts' := by
  obtain ⟨used, rfl⟩ := hleft
  induction used generalizing ts' with
  | nil =>
    refine ⟨ts', .here ?_⟩
    rw [← List.head?_map, ← List.head?_map]
    exact congrArg List.head? h
  | cons t used ih =>
    obtain ⟨t', r', rfl, ht, hr⟩ := List.map_eq_cons_iff.mp h.symm
    obtain ⟨left', halong⟩ := ih hr.symm
    exact ⟨left', .there ht.symm halong⟩

/-- What a viable reader can read, it can read wherever the same tokens stand. -/
theorem Viable.exists_of_map_eq {α : Type} {a : α} {follows : List Placed → Prop}
    {read : Text → List Placed → Result α} {body' : List Placed}
    (hviable : Viable follows (fun source ts => haltRead (read source ts)) source body)
    (h : read source body = .ok (a, rest))
    (hbody : body.map Placed.token = body'.map Placed.token) (source' : Text) :
    ∃ a' rest', read source' body' = .ok (a', rest') := by
  have hhalt : haltRead (read source body) = ⟨none, rest⟩ := by
    rw [h]
    rfl
  obtain ⟨rest', halong⟩ := Along.of_map_eq hviable.suffix hbody
  have hread : haltRead (read source' body') = ⟨none, rest'⟩ := by
    rw [hviable.along halong, hhalt]
  cases hresult : read source' body' with
  | error e =>
    rw [hresult] at hread
    cases hread
  | ok p => exact ⟨p.1, p.2, rfl⟩

/-! ## The parts of a column list -/

section Parts

variable {xs xs' : List Lexeme} {behind : List Token}

theorem IsClause.of_solidTokens {c : Option Constraint} (h : IsClause xs c behind)
    (hsame : solidTokens xs' = solidTokens xs) : ∃ c', IsClause xs' c' behind := by
  cases h with
  | plain h =>
    rw [← hsame] at h
    exact ⟨c, .plain h⟩
  | default hkeyword ht hvalue hrest =>
    rw [solidTokens_append] at hsame
    obtain ⟨keyword', value', rfl, hkeyword', hvalue'⟩ := exists_split_tokens _ hsame
    rw [← hvalue'] at hvalue
    exact ⟨_, .default (hkeyword'.trans hkeyword) ht hvalue hrest⟩

/-- Whether lexemes are clauses is told by their tokens. -/
theorem IsClauses.of_solidTokens {cs : List Constraint} (h : IsClauses xs cs behind)
    (hsame : solidTokens xs' = solidTokens xs) : ∃ cs', IsClauses xs' cs' behind := by
  induction h generalizing xs' with
  | nil hxs => exact ⟨[], .nil (hsame.trans hxs)⟩
  | cons hclause _ ih =>
    rw [solidTokens_append] at hsame
    obtain ⟨ys, zs, rfl, hys, hzs⟩ := exists_split_tokens _ hsame
    rw [← hzs] at hclause
    obtain ⟨c', hclause'⟩ := hclause.of_solidTokens hys
    obtain ⟨cs', hclauses'⟩ := ih hzs
    exact ⟨_, .cons hclause' hclauses'⟩

/-- Lexemes with the tokens of a column are a column, and the same but for its constraints. -/
theorem IsColumn.of_solidTokens {c : Column} (h : IsColumn xs c behind)
    (hsame : solidTokens xs' = solidTokens xs) :
    ∃ c', IsColumn xs' c' behind ∧ c'.outline = c.outline := by
  cases h with
  | intro hname htype hclauses =>
    rw [solidTokens_append, solidTokens_append, List.append_assoc] at hsame
    obtain ⟨name', more, rfl, hname', hmore⟩ := exists_split_tokens _ hsame
    obtain ⟨type', clauses', rfl, htype', hclauses'⟩ := exists_split_tokens _ hmore
    obtain ⟨cs', hcs'⟩ := hclauses.of_solidTokens hclauses'
    rw [← htype', ← hclauses'] at htype
    rw [← List.append_assoc]
    exact ⟨_, .intro (hname'.trans hname) htype hcs', rfl⟩

/-- So are entries. -/
theorem IsItem.of_solidTokens {c : Option Column} (h : IsItem xs c)
    (hsame : solidTokens xs' = solidTokens xs) :
    ∃ c', IsItem xs' c' ∧ c'.map Column.outline = c.map Column.outline := by
  cases h with
  | skipped hstarts hclosed =>
    rw [← hsame] at hstarts hclosed
    exact ⟨none, .skipped hstarts hclosed, rfl⟩
  | column hstarts hcolumn =>
    obtain ⟨c', hcolumn', houtline⟩ := hcolumn.of_solidTokens hsame
    rw [← hsame] at hstarts
    exact ⟨some c', .column hstarts hcolumn', congrArg some houtline⟩

end Parts

end Grammar

open Grammar

namespace Table

variable {xs xs' : List Lexeme} {t t' : Table}

theorem ofLexemes_eq_ok : ofLexemes xs = .ok t ↔ ∃ body rest,
    afterHeader? (solid Location.start xs) = some body ∧ table (textOf xs) body = .ok (t, rest) :=
  ofTokens_eq_ok

/-- Lexemes with the tokens of a table define a table. -/
theorem exists_ofLexemes_of_solidTokens (h : ofLexemes xs = .ok t)
    (hsame : solidTokens xs' = solidTokens xs) : ∃ t', ofLexemes xs' = .ok t' := by
  obtain ⟨body, rest, hbody, htable⟩ := ofLexemes_eq_ok.mp h
  obtain ⟨before, used, hsplit, -⟩ := exists_header hbody
  rw [hsplit] at hbody
  have htokens : (solid Location.start xs').map Placed.token
      = (before ++ used).map Placed.token ++ body.map Placed.token := by
    rw [solid_map_token, hsame, ← List.map_append, ← hsplit, solid_map_token]
  obtain ⟨front', body', hsplit', hfront, hbody'⟩ := List.map_eq_append_iff.mp htokens
  have hviable : Viable (fun _ => True) (fun source ts => haltRead (table source ts)) (textOf xs)
      body := table_viable body
  obtain ⟨t', rest', ht'⟩ := hviable.exists_of_map_eq htable hbody'.symm (textOf xs')
  refine ⟨t', ofLexemes_eq_ok.mpr ⟨body', rest', ?_, ht'⟩⟩
  rw [hsplit']
  exact afterHeader?_same hfront.symm hbody body'

/-- The tokens of a table: a first header, a name, and a column list. -/
theorem exists_solidTokens_of_ofLexemes (h : ofLexemes xs = .ok t) : ∃ header words list,
    EndsInHeader header ∧ IsName words t.name
      ∧ solidTokens xs = header ++ (words ++ .leftParen :: list) := by
  obtain ⟨body, rest, hbody, htable⟩ := ofLexemes_eq_ok.mp h
  obtain ⟨before, used, hsplit, -⟩ := exists_header hbody
  obtain ⟨words, u, r, rfl, hname, hu, -⟩ := table_sound htable
  rw [hsplit] at hbody
  refine ⟨_, _, r.map Placed.token, endsInHeader_of_afterHeader? hbody, hname, ?_⟩
  have hlist : (words ++ u :: r).map Placed.token
      = words.map Placed.token ++ .leftParen :: r.map Placed.token := by
    rw [List.map_append, List.map_cons, hu]
  rw [← solid_map_token Location.start, hsplit, List.map_append, hlist]

/-- Tables with the same tokens are the same but for the texts of their constraints. -/
theorem outline_eq_of_solidTokens (h : ofLexemes xs = .ok t) (h' : ofLexemes xs' = .ok t')
    (hsame : solidTokens xs' = solidTokens xs) : t'.outline = t.outline := by
  obtain ⟨header, words, list, hheader, hname, hxs⟩ := exists_solidTokens_of_ofLexemes h
  obtain ⟨-, ys, hys, hentries⟩ := exists_areEntries h hheader hname hxs
  obtain ⟨heq, ys', hys', hentries'⟩ := exists_areEntries h' hheader hname (hsame.trans hxs)
  rw [outline, outline, heq, (SameOutline.refl list).columns hys' hys hentries' hentries]

/-- Whether lexemes define a table, and which one but for the texts of its constraints, is told
by their tokens. -/
theorem exists_ofLexemes (h : ofLexemes xs = .ok t) (hsame : solidTokens xs' = solidTokens xs) :
    ∃ t', ofLexemes xs' = .ok t' ∧ t'.outline = t.outline := by
  obtain ⟨t', ht'⟩ := exists_ofLexemes_of_solidTokens h hsame
  exact ⟨t', ht', outline_eq_of_solidTokens h ht' hsame⟩

/-- No table is defined by blanks alone. -/
theorem solidTokens_ne_nil (h : ofLexemes xs = .ok t) : solidTokens xs ≠ [] := by
  obtain ⟨header, words, list, -, -, hxs⟩ := exists_solidTokens_of_ofLexemes h
  rw [hxs]
  simp

end Table

end TableScaffold
