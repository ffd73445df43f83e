import Mathlib.Data.List.Nodup
import TableScaffold.Proofs.Cursor.Answer

set_option autoImplicit false

/-!
# What the cursor reads in the end

A cursor that is led to the end has read the table that the tokens define, or has found
the same fault at the same place (`outcome?_later`).  On its way there it gets ahead in
every round of every loop and is never trapped (`advances_to_outcome`).  Two of the faults
of a definition are never found: the separator behind an entry is looked for only where
the entry has ended at a comma, a closing parenthesis or the end of the tokens, and a group
only where a parenthesis opens it.
-/

namespace TableScaffold

/-! ## The wording of a fault -/

namespace GrammarFault

/-- The faults that name no column. -/
def fixed : List GrammarFault :=
  [.expectedName .table, .expectedName .referencedTable, .expectedNameAfterPeriod .table,
    .expectedNameAfterPeriod .referencedTable, .expectedColumnList, .unterminatedList,
    .expectedSeparator, .expectedColumnName, .expectedExpression, .expectedGroup, .unbalancedGroup]

theorem mem_fixed (fault : GrammarFault) :
    fault ∈ fixed ∨ ∃ column, fault = .expectedType column := by
  cases fault with
  | expectedName use => cases use <;> exact .inl (by decide)
  | expectedNameAfterPeriod use => cases use <;> exact .inl (by decide)
  | expectedType column => exact .inr ⟨column, rfl⟩
  | _ => exact .inl (by decide)

theorem prefix_message_expectedType (column : Text) :
    "expected type for column \"".toList <+: (expectedType column).message :=
  ⟨column ++ "\"".toList, (List.append_assoc _ _ _).symm⟩

theorem not_prefix_message : ∀ fault ∈ fixed,
    ¬ "expected type for column \"".toList <+: fault.message := by
  decide

/-- No two faults have one wording. -/
theorem message_injective : Function.Injective message := by
  intro fault fault' h
  rcases mem_fixed fault with hfault | ⟨column, rfl⟩
  · rcases mem_fixed fault' with hfault' | ⟨column, rfl⟩
    · exact List.inj_on_of_nodup_map (by decide : (fixed.map message).Nodup) hfault hfault' h
    · exact absurd (h ▸ prefix_message_expectedType column) (not_prefix_message fault hfault)
  · rcases mem_fixed fault' with hfault' | ⟨column', rfl⟩
    · exact absurd (h ▸ prefix_message_expectedType column) (not_prefix_message fault' hfault')
    · exact congrArg _ (List.append_cancel_left (List.append_cancel_right h))

end GrammarFault

namespace Cursor

open Grammar
open Sql (Placed Token)

section

variable {source : Text} {ts : List Placed} {s : State}

/-! ## Runs -/

theorem Sound.answer_reaches {s' : State} (h : Sound ts s) (hreaches : Reaches source ts s s') :
    s'.answer source ts = s.answer source ts := by
  induction hreaches with
  | refl => rfl
  | tail hrun hstep ih => rw [(h.reaches hrun).1.answer_eq hstep, ih]

theorem answer_start (source : Text) (ts : List Placed) :
    State.start.answer source ts = Table.ofTokens source ts :=
  headerAnswer_eq source ts

theorem faultLocation_drop (ts : List Placed) (pos : Nat) :
    faultLocation ts (ts.drop pos) = locationAt ts pos := by
  rw [faultLocation, List.head?_drop]
  rfl

/-- Where reading has ended, nothing is left to read. -/
theorem Sound.outcome?_eq (h : Sound ts s) (hend : step source ts s = none) :
    s.outcome? ts = some (s.answer source ts) := by
  have hfits := h.fits
  unfold step at hend
  cases hpoint : s.point <;> simp only [hpoint, reduceCtorEq] at hend hfits
  all_goals rw [State.answer.eq_def, State.outcome?, hpoint]
  case failed fault =>
    dsimp only
    rw [conclude, faultLocation_drop]
  case trapped => exact hfits.elim

/-- After enough steps the outcome of the definition is read. -/
theorem outcome?_later {n : Nat} (hn : State.start.effort ts ≤ n) :
    (State.start.later source ts n).outcome? ts = some (Table.ofTokens source ts) := by
  have hreaches := reaches_later source ts n .start
  have hsound := ((sound_start ts).reaches hreaches).1
  rw [hsound.outcome?_eq ((sound_start ts).step_later hn), (sound_start ts).answer_reaches hreaches,
    answer_start]

/-- Two faults that are never found. -/
theorem Sound.fault_ne (h : Sound ts s) {fault : GrammarFault} {l : Location}
    (houtcome : s.outcome? ts = some (.error (.malformed fault l))) :
    fault ≠ .expectedGroup ∧ fault ≠ .expectedSeparator := by
  have hpoint : s.point = .failed fault := by
    unfold State.outcome? at houtcome
    split at houtcome <;> simp_all
  have hfits := h.fits
  rwa [hpoint] at hfits

/-- Reading a definition never goes back, out of the tokens or round a loop at one place,
and ends with the table that the tokens define or with a fault that is none of those of
a missing separator and of a missing group. -/
theorem advances_to_outcome (source : Text) (ts : List Placed) :
    (∀ s, Reaches source ts .start s →
      s.pos ≤ ts.length ∧ (∀ trap, s.point ≠ .trapped trap)
      ∧ (∀ s', Reaches source ts s s' → s.pos ≤ s'.pos)
      ∧ ∀ loop s', s.point.loop? = some loop → s'.point.loop? = some loop →
        Relation.TransGen (Steps source ts) s s' → s.pos < s'.pos)
    ∧ (∀ n, 5 * ts.length < n → step source ts (State.start.later source ts n) = none
      ∧ (State.start.later source ts n).outcome? ts = some (Table.ofTokens source ts))
    ∧ ∀ fault l, Table.ofTokens source ts = .error (.malformed fault l) →
      fault.message ≠ "expected ',' or ')'".toList ∧ fault.message ≠ "expected '('".toList := by
  have hstart := sound_start ts
  have heffort : State.start.effort ts = 5 * ts.length + 1 := by
    simp [State.effort, State.start, Nat.mul_comm]
  refine ⟨?_, ?_, ?_⟩
  · intro s hs
    have hsound := (hstart.reaches hs).1
    refine ⟨hsound.pos_le, ?_, fun s' hs' => (hsound.reaches hs').2, ?_⟩
    · intro trap htrap
      have hfits := hsound.fits
      rwa [htrap] at hfits
    · intro loop s' hloop hloop' hsteps
      exact hsound.lt_of_loop hsteps hloop hloop'
  · intro n hn
    exact ⟨hstart.step_later (by omega), outcome?_later (by omega)⟩
  · intro fault l hfault
    have houtcome := @outcome?_later source ts _ (Nat.le_refl _)
    rw [hfault] at houtcome
    obtain ⟨hgroup, hseparator⟩ := (hstart.reaches (reaches_later source ts _ .start)).1.fault_ne
      houtcome
    exact ⟨fun h => hseparator (GrammarFault.message_injective h),
      fun h => hgroup (GrammarFault.message_injective h)⟩

end

namespace Sample

/-- A definition that ends within a group of a default expression. -/
def unclosed : Text := "CREATE TABLE IF NOT EXISTS t (a INT DEFAULT (b".toList

/-- The tokens of that definition. -/
def unclosedTokens : List Placed :=
  match Sql.tokens unclosed with
  | .ok ts => ts.filter (·.token ≠ .blank)
  | .error _ => []

/-- The state after some steps through that definition. -/
def reading (n : Nat) : State := State.start.later unclosed unclosedTokens n

end Sample

theorem advances_to_outcome_unclosed :
    (Sample.reading 9).point.loop? = some .expression
      ∧ (Sample.reading 10).point.loop? = some .expression
      ∧ (Sample.reading 9).pos < (Sample.reading 10).pos
      ∧ (Sample.reading 10).pos ≤ Sample.unclosedTokens.length
      ∧ (Sample.reading 61).outcome? Sample.unclosedTokens
        = some (Table.ofTokens Sample.unclosed Sample.unclosedTokens)
      ∧ Table.ofTokens Sample.unclosed Sample.unclosedTokens
        = .error (.malformed .unterminatedList ⟨1, 47⟩)
      ∧ GrammarFault.unterminatedList.message ≠ "expected ',' or ')'".toList := by
  have hloop : (Sample.reading 9).point.loop? = some .expression := by decide +kernel
  have hloop' : (Sample.reading 10).point.loop? = some .expression := by decide +kernel
  have hstep : step Sample.unclosed Sample.unclosedTokens (Sample.reading 9)
      = some (Sample.reading 10) := by
    decide +kernel
  have hfault : Table.ofTokens Sample.unclosed Sample.unclosedTokens
      = .error (.malformed .unterminatedList ⟨1, 47⟩) := by
    decide +kernel
  obtain ⟨hreached, hend, hmessage⟩ := advances_to_outcome Sample.unclosed Sample.unclosedTokens
  have hbefore := hreached (Sample.reading 9) (reaches_later _ _ 9 .start)
  have hbehind := hreached (Sample.reading 10) (reaches_later _ _ 10 .start)
  exact ⟨hloop, hloop', hbefore.2.2.2 _ _ hloop hloop' (.single hstep), hbehind.1,
    (hend 61 (by decide +kernel)).2, hfault, (hmessage _ _ hfault).1⟩

end Cursor

end TableScaffold
