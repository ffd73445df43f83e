import TableScaffold.Artifact.Slots
import TableScaffold.Proofs.Template.Pieces

set_option autoImplicit false

/-!
# The slots of a table have values

The slots that a kind of artifact is rendered with have the values that are listed for
that kind, so a template in pieces that uses no other slots renders (`render_slots`).
-/

namespace TableScaffold

theorem Slots.get?_insertAll (s : Slots) (values : List (Text × Text)) (name : Text) :
    (s.insertAll values).get? name = (values.reverse.lookup name).or (s.get? name) := by
  induction values generalizing s with
  | nil => rfl
  | cons v values ih =>
    obtain ⟨key, value⟩ := v
    have hlookup : [(key, value)].lookup name = if name = key then some value else none := by
      by_cases h : name = key
      · simp [h]
      · simp [List.lookup_cons, h, beq_eq_false_iff_ne.mpr h]
    rw [insertAll, List.foldl_cons, ← insertAll, ih, get?_insert, List.reverse_cons,
      List.lookup_append, Option.or_assoc, hlookup]
    congr 1
    split <;> rfl

namespace ArtifactKind

open Template

variable (k : ArtifactKind) (t : Table) (c : Config)

/-- A slot is looked up by its spelling. -/
theorem lookup_spelling (n : SlotName) (values : List (SlotName × Text)) :
    (values.map fun v => (v.1.spelling, v.2)).lookup n.spelling = values.lookup n := by
  induction values with
  | nil => rfl
  | cons v values ih =>
    rw [List.map_cons, List.lookup_cons, List.lookup_cons, ih]
    by_cases h : n = v.1
    · simp [h]
    · have hspelling : n.spelling ≠ v.1.spelling := fun heq => h (SlotName.spelling_injective heq)
      rw [beq_eq_false_iff_ne.mpr h, beq_eq_false_iff_ne.mpr hspelling]

theorem get?_slots (n : SlotName) :
    (k.slots t c).get? n.spelling = (k.slotValues t c).reverse.lookup n := by
  rw [slots, Slots.ofList, Slots.get?_insertAll, ← List.map_reverse, lookup_spelling,
    Slots.get?_empty, Option.or_none]

/-- The value of a slot for a table. -/
def slotValue (n : SlotName) : Text := ((k.slotValues t c).reverse.lookup n).getD []

/-- The slots that have a value for every table. -/
def slotNames : ArtifactKind → List SlotName
  | proto => common ++ [.entityMessage, .createMessage, .updateMessage]
  | handler => common
  | service => common
  | repository => common ++ [.insertColumns, .insertValues, .insertExecArgs, .selectColumns,
      .updateSet, .updateBindings, .scanDeclarations, .scanTargets, .responseFields]
where
  /-- The slots of every kind. -/
  common : List SlotName := [.entity, .entityCamel, .entityPlural, .table, .tablePlural, .route,
    .idParam, .goModule, .protoPackage]

theorem map_fst_slotValues : (k.slotValues t c).map (·.1) = k.slotNames := by
  cases k <;> rfl

theorem haveValues_slots {ps : List Piece}
    (h : ∀ n ∈ ps.filterMap Piece.slotName?, n ∈ k.slotNames) :
    Piece.HaveValues (k.slots t c) (k.slotValue t c) ps := by
  intro n hn
  have hmem := h n (List.mem_filterMap.mpr ⟨_, hn, rfl⟩)
  rw [← map_fst_slotValues k t c] at hmem
  obtain ⟨v, hv, hfst⟩ := List.mem_map.mp hmem
  rw [get?_slots, slotValue]
  cases hlookup : (k.slotValues t c).reverse.lookup n with
  | some _ => rfl
  | none =>
    have hne := List.lookup_eq_none_iff.mp hlookup v (List.mem_reverse.mpr hv)
    simp [hfst] at hne

end ArtifactKind

end TableScaffold
