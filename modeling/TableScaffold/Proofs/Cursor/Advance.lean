import TableScaffold.Proofs.Cursor.Machine

set_option autoImplicit false

/-!
# The cursor gets ahead

`Sound.advances` says what a step of the cursor keeps and that it gets ahead: it moves
the cursor on, or leaves less to read at the same token.  So the cursor is never moved
back (`Sound.reaches`), between two rounds of one loop it is moved on
(`Sound.lt_of_loop`), and reading comes to an end, after five steps for each token at
most (`Sound.step_later`).
-/

namespace TableScaffold.Cursor

open Sql (Placed Token)

/-! ## What a step keeps -/

/-- How much there is to read before the cursor has to move on, at most. -/
@[simp] def Point.rank : Point → Nat
  | .finished | .failed _ | .noHeader | .trapped _ => 0
  | .header | .name _ | .namePart _ | .columnList | .columnName | .openGroup _ | .separator => 1
  | .clauses _ | .tableConstraint => 2
  | .entries | .typeWords _ _ | .second _ _ _ | .constraintName _ | .expressionText _ _
    | .referenced _ _ => 3
  | .behindName _ _ | .expression _ _ _ | .group _ _ => 4

/-- What is known of the cursor's place and of the token there when something is read
next. -/
def Point.Fits (next : Option Token) (pos : Nat) : Point → Prop
  | .header => pos = 0
  | .expression _ first _ => first ≤ pos
  | .expressionText _ first => first ≤ pos
  | .openGroup _ => next = some .leftParen
  | .separator => ∀ t ∈ next, t = .comma ∨ t = .rightParen
  | .failed fault => fault ≠ .expectedGroup ∧ fault ≠ .expectedSeparator
  | .trapped _ => False
  | _ => True

/-- A state that may be reached. -/
structure Sound (ts : List Placed) (s : State) : Prop where
  pos_le : s.pos ≤ ts.length
  fits : s.point.Fits (token? ts s.pos) s.pos

/-- A step to a state that may be reached, which moves the cursor on or leaves less to
read at the same token. -/
structure Advances (ts : List Placed) (s s' : State) : Prop where
  sound : Sound ts s'
  ahead : s.pos < s'.pos ∨ s.pos = s'.pos ∧ s'.point.rank < s.point.rank

section

variable {source : Text} {ts : List Placed} {s s' : State}

theorem Advances.stay {p : Point} (hpos : s.pos ≤ ts.length)
    (hfits : p.Fits (token? ts s.pos) s.pos) (hrank : p.rank < s.point.rank) :
    Advances ts s (s.stay p) :=
  ⟨⟨hpos, hfits⟩, .inr ⟨rfl, hrank⟩⟩

theorem Advances.move {p : Point} {t : Token} (ht : token? ts s.pos = some t)
    (hfits : ∀ next, p.Fits next (s.pos + 1)) : Advances ts s (s.move p) :=
  ⟨⟨lt_of_token? ht, hfits _⟩, .inl (Nat.lt_succ_self _)⟩

theorem Advances.fail {fault : GrammarFault} (hpos : s.pos ≤ ts.length)
    (hgroup : fault ≠ .expectedGroup) (hseparator : fault ≠ .expectedSeparator)
    (hrank : 0 < s.point.rank) : Advances ts s (s.fail fault) :=
  .stay hpos ⟨hgroup, hseparator⟩ hrank

/-! ## One step -/

theorem endType_advances {c : Pending} {again : Bool} (hpos : s.pos ≤ ts.length)
    (hpoint : s.point = .typeWords c again) : Advances ts s (endType ts s c again) := by
  unfold endType
  split
  · exact .stay hpos trivial (by simp [hpoint])
  split
  · exact .fail hpos nofun nofun (by simp [hpoint])
  split
  · next hleft => exact .stay hpos hleft (by simp [hpoint])
  · exact .stay hpos trivial (by simp [hpoint])

theorem typeStep_advances {c : Pending} {again : Bool} (hpos : s.pos ≤ ts.length)
    (hpoint : s.point = .typeWords c again) : Advances ts s (typeStep ts s c again) := by
  unfold typeStep
  split
  · next htoken =>
    split
    · exact endType_advances hpos hpoint
    · exact .move htoken fun _ => trivial
  · exact endType_advances hpos hpoint

theorem endColumn_advances {c : Pending} (hpos : s.pos ≤ ts.length)
    (hpoint : s.point = .clauses c)
    (hnext : ∀ t ∈ token? ts s.pos, t = .comma ∨ t = .rightParen) :
    Advances ts s (s.endColumn c) :=
  ⟨⟨hpos, hnext⟩, .inr ⟨rfl, by simp [State.endColumn, hpoint]⟩⟩

theorem clauseStep_advances {c : Pending} (hpos : s.pos ≤ ts.length)
    (hpoint : s.point = .clauses c) : Advances ts s (clauseStep ts s c) := by
  unfold clauseStep
  cases htoken : token? ts s.pos with
  | none => exact endColumn_advances hpos hpoint (by simp [htoken])
  | some t =>
    dsimp only
    split
    · next hend => exact endColumn_advances hpos hpoint (by simpa [htoken] using hend)
    split
    · next hleft => exact .stay hpos (htoken.trans (congrArg some hleft)) (by simp [hpoint])
    -- the cursor moves on, whatever keyword the token is
    repeat' split
    all_goals exact .move htoken (by simp [Point.Fits])

theorem expressionStep_advances {c : Pending} {first depth : Nat} (hpos : s.pos ≤ ts.length)
    (hfirst : first ≤ s.pos) (hpoint : s.point = .expression c first depth) :
    Advances ts s (expressionStep ts s c first depth) := by
  have hmore : first ≤ s.pos + 1 := Nat.le_succ_of_le hfirst
  unfold expressionStep
  split
  · exact .stay hpos hfirst (by simp [hpoint])
  · next htoken => exact .move htoken fun _ => hmore
  · next htoken =>
    split
    · exact .stay hpos hfirst (by simp [hpoint])
    · next hdepth =>
      split
      · next hzero => exact absurd (Nat.ppred_eq_none.mp hzero) hdepth
      · exact .move htoken fun _ => hmore
  · next htoken =>
    split
    · exact .stay hpos hfirst (by simp [hpoint])
    · exact .move htoken fun _ => hmore

theorem textStep_advances {c : Pending} {first : Nat} (hpos : s.pos ≤ ts.length)
    (hfirst : first ≤ s.pos) (hpoint : s.point = .expressionText c first) :
    Advances ts s (textStep source ts s c first) := by
  rcases Nat.eq_or_lt_of_le hfirst with heq | hlt
  · unfold textStep
    rw [if_pos heq.symm]
    exact .fail hpos nofun nofun (by simp [hpoint])
  · obtain ⟨t, u, -, -, htext⟩ := exists_textStep source c hlt hpos
    rw [htext]
    exact .stay hpos trivial (by simp [hpoint])

theorem groupStep_advances {around : Around} {depth : Nat} (hpos : s.pos ≤ ts.length)
    (hpoint : s.point = .group around depth) : Advances ts s (groupStep ts s around depth) := by
  unfold groupStep
  split
  · cases around <;> exact .stay hpos trivial (by simp [hpoint])
  next hdepth =>
  split
  · exact .fail hpos nofun nofun (by simp [hpoint])
  · next htoken => exact .move htoken fun _ => trivial
  · next htoken =>
    split
    · next hzero => exact absurd (Nat.ppred_eq_none.mp hzero) hdepth
    · exact .move htoken fun _ => trivial
  · next htoken => exact .move htoken fun _ => trivial

theorem tableConstraintStep_advances (hpos : s.pos ≤ ts.length)
    (hpoint : s.point = .tableConstraint) : Advances ts s (tableConstraintStep ts s) := by
  unfold tableConstraintStep
  cases htoken : token? ts s.pos with
  | none => exact .stay hpos (by simp [Point.Fits, htoken]) (by simp [hpoint])
  | some t =>
    dsimp only
    split
    · next hend =>
      exact .stay hpos (by simpa [Point.Fits, htoken] using hend) (by simp [hpoint])
    split
    · next hleft => exact .stay hpos (htoken.trans (congrArg some hleft)) (by simp [hpoint])
    · exact .move htoken fun _ => trivial

theorem separatorStep_advances (hpos : s.pos ≤ ts.length) (hpoint : s.point = .separator)
    (hnext : ∀ t ∈ token? ts s.pos, t = .comma ∨ t = .rightParen) :
    Advances ts s (separatorStep ts s) := by
  unfold separatorStep
  split
  · exact .fail hpos nofun nofun (by simp [hpoint])
  · next htoken => exact .move htoken fun _ => trivial
  · next htoken => exact .move htoken fun _ => trivial
  · next t hcomma hright htoken =>
    rcases hnext t htoken with rfl | rfl
    · exact absurd rfl hcomma
    · exact absurd rfl hright

theorem headerStep_advances (hpos : s.pos = 0) (hpoint : s.point = .header) :
    Advances ts s (headerStep ts s) := by
  unfold headerStep
  split
  · exact .stay (by omega) trivial (by simp [hpoint])
  · next pos hheader =>
    obtain ⟨hbehind, hle⟩ := of_behindHeader? hheader
    exact ⟨⟨hle, trivial⟩, .inl (hpos ▸ hbehind)⟩

theorem wordStep_advances {next : Text → Point} {fault : GrammarFault} (hpos : s.pos ≤ ts.length)
    (hrank : 0 < s.point.rank) (hgroup : fault ≠ .expectedGroup)
    (hseparator : fault ≠ .expectedSeparator)
    (hfits : ∀ value token, (next value).Fits token (s.pos + 1)) :
    Advances ts s (wordStep ts s next fault) := by
  unfold wordStep
  split
  · exact .fail hpos hgroup hseparator hrank
  · next value hword =>
    obtain ⟨quoted, htoken⟩ := token?_of_word? hword
    exact .move htoken (hfits value)

theorem entryStep_advances (hpos : s.pos ≤ ts.length) (hpoint : s.point = .entries) :
    Advances ts s (entryStep ts s) := by
  unfold entryStep
  split
  · exact .fail hpos nofun nofun (by simp [hpoint])
  next htoken =>
  split
  · exact .move htoken fun _ => trivial
  split
  · exact .stay hpos trivial (by simp [hpoint])
  · exact .stay hpos trivial (by simp [hpoint])

/-- A step from a state that may be reached leads to one that may be reached, and gets
ahead. -/
theorem Sound.advances (h : Sound ts s) (hstep : Steps source ts s s') : Advances ts s s' := by
  obtain ⟨hpos, hfits⟩ := h
  unfold Steps step at hstep
  cases hpoint : s.point <;> simp only [hpoint, Option.some.injEq, reduceCtorEq] at hstep hfits <;>
    try subst hstep
  case header => exact headerStep_advances hfits hpoint
  case name => exact wordStep_advances hpos (by simp [hpoint]) nofun nofun fun _ _ => trivial
  case namePart => exact wordStep_advances hpos (by simp [hpoint]) nofun nofun fun _ _ => trivial
  case columnName => exact wordStep_advances hpos (by simp [hpoint]) nofun nofun fun _ _ => trivial
  case behindName of part =>
    split
    · next htoken => exact .move htoken fun _ => trivial
    · cases of with
      | table => exact ⟨⟨hpos, trivial⟩, .inr ⟨rfl, by simp [State.endName, hpoint]⟩⟩
      | reference => exact .stay hpos trivial (by simp [hpoint])
  case columnList =>
    unfold openingStep
    split
    · next htoken => exact .move htoken fun _ => trivial
    · exact .fail hpos nofun nofun (by simp [hpoint])
  case openGroup =>
    have htoken : token? ts s.pos = some .leftParen := hfits
    unfold openingStep
    rw [if_pos htoken]
    exact .move htoken fun _ => trivial
  case entries => exact entryStep_advances hpos hpoint
  case typeWords => exact typeStep_advances hpos hpoint
  case clauses => exact clauseStep_advances hpos hpoint
  case second =>
    split
    · next hkeyword =>
      obtain ⟨t, htoken, -⟩ := (Option.any_eq_true _ _).mp hkeyword
      exact .move htoken fun _ => trivial
    · exact .stay hpos trivial (by simp [hpoint])
  case constraintName =>
    split
    · next hword =>
      obtain ⟨value, hvalue⟩ := Option.isSome_iff_exists.mp hword
      obtain ⟨quoted, htoken⟩ := token?_of_word? hvalue
      exact .move htoken fun _ => trivial
    · exact .stay hpos trivial (by simp [hpoint])
  case expression => exact expressionStep_advances hpos hfits hpoint
  case expressionText => exact textStep_advances hpos hfits hpoint
  case referenced =>
    split
    · next htoken => exact .stay hpos htoken (by simp [hpoint])
    · exact .stay hpos trivial (by simp [hpoint])
  case group => exact groupStep_advances hpos hpoint
  case tableConstraint => exact tableConstraintStep_advances hpos hpoint
  case separator => exact separatorStep_advances hpos hpoint hfits

/-! ## Runs -/

theorem sound_start (ts : List Placed) : Sound ts .start := ⟨Nat.zero_le _, rfl⟩

/-- What is reached from a state that may be reached may be reached, and the cursor is not
moved back on the way. -/
theorem Sound.reaches (h : Sound ts s) (hreaches : Reaches source ts s s') :
    Sound ts s' ∧ s.pos ≤ s'.pos := by
  induction hreaches with
  | refl => exact ⟨h, Nat.le_refl _⟩
  | tail _ hstep ih =>
    obtain ⟨hsound, hle⟩ := ih
    have hstep := hsound.advances hstep
    have hahead := hstep.ahead
    exact ⟨hstep.sound, by omega⟩

/-- A run of one step or more gets ahead. -/
theorem Sound.ahead (h : Sound ts s) (hsteps : Relation.TransGen (Steps source ts) s s') :
    s.pos < s'.pos ∨ s.pos = s'.pos ∧ s'.point.rank < s.point.rank := by
  induction hsteps with
  | single hstep => exact (h.advances hstep).ahead
  | tail hfirst hstep ih =>
    have hahead := ((h.reaches hfirst.to_reflTransGen).1.advances hstep).ahead
    omega

/-! ## The end -/

/-- How many steps may be left, at most. -/
def State.effort (ts : List Placed) (s : State) : Nat := (ts.length - s.pos) * 5 + s.point.rank

theorem Advances.effort_lt (h : Advances ts s s') : s'.effort ts < s.effort ts := by
  have hpos := h.sound.pos_le
  have hahead := h.ahead
  -- at the next token there are at most four more looks
  have hrank : s'.point.rank ≤ 4 := by
    cases s'.point <;> simp
  unfold State.effort
  omega

/-- The state some steps later, or the last one. -/
def State.later (source : Text) (ts : List Placed) : Nat → State → State
  | 0, s => s
  | n + 1, s =>
    match step source ts s with
    | none => s
    | some s' => s'.later source ts n

theorem reaches_later (source : Text) (ts : List Placed) (n : Nat) (s : State) :
    Reaches source ts s (s.later source ts n) := by
  induction n generalizing s with
  | zero => exact .refl
  | succ n ih =>
    rw [State.later]
    split
    · exact .refl
    · next s' hstep => exact .head hstep (ih s')

/-- Reading comes to an end. -/
theorem Sound.step_later (h : Sound ts s) {n : Nat} (hn : s.effort ts ≤ n) :
    step source ts (s.later source ts n) = none := by
  induction n generalizing s with
  | zero =>
    cases hstep : step source ts s with
    | none => exact hstep
    | some s' =>
      have := (h.advances hstep).effort_lt
      omega
  | succ n ih =>
    rw [State.later]
    split
    · assumption
    · next s' hstep =>
      have hnext := h.advances hstep
      have := hnext.effort_lt
      exact ih hnext.sound (by omega)

/-! ## Loops -/

/-- What is read by going round and round. -/
inductive Loop where
  | nameParts
  | entries
  | typeWords
  | clauses
  | expression
  | group
  | tableConstraint
  deriving DecidableEq, Repr

/-- The loop of which a round begins. -/
def Point.loop? : Point → Option Loop
  | .behindName _ _ => some .nameParts
  | .entries => some .entries
  | .typeWords _ _ => some .typeWords
  | .clauses _ => some .clauses
  | .expression _ _ _ => some .expression
  | .group _ _ => some .group
  | .tableConstraint => some .tableConstraint
  | _ => none

theorem rank_of_loop? {p q : Point} {loop : Loop} (hp : p.loop? = some loop)
    (hq : q.loop? = some loop) : p.rank = q.rank := by
  cases loop <;> cases p <;> cases hp <;> cases q <;> cases hq <;> rfl

/-- Between two rounds of one loop the cursor moves on. -/
theorem Sound.lt_of_loop (h : Sound ts s) (hsteps : Relation.TransGen (Steps source ts) s s')
    {loop : Loop} (hloop : s.point.loop? = some loop) (hloop' : s'.point.loop? = some loop) :
    s.pos < s'.pos := by
  have hrank := rank_of_loop? hloop hloop'
  have hahead := h.ahead hsteps
  omega

end

end TableScaffold.Cursor
