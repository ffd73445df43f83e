import Mathlib.Data.List.Infix
import TableScaffold.Proofs.Template.Pieces
import TableScaffold.Standalone

set_option autoImplicit false

/-!
# Rendering is substitution

A template may be a sequence of literal texts and slots in which no literal text begins a tag, and
none runs into one (`IsPlain`).  Such a template is read as what it is made of
(`parts_sourceOf`).  So it renders to the same sequence with the values in place of the slots, as
they are, or it fails at the first slot without a value; and two of them that may stand one
behind the other render to their texts, one behind the other (`render_sourceOf`).
-/

namespace TableScaffold.Template

/-- A segment of a template. -/
inductive Segment where
  /-- literal text -/
  | literal (t : Text)
  /-- the value of a name -/
  | slot (name : Text)
  deriving DecidableEq, Repr

/-! ## Literal text without tags -/

/-- What a tag begins with. -/
def openers : List Text := ["\x7b\x7b".toList, "\x7b%".toList, "\x7b#".toList]

/-- A text in which no tag begins. -/
def HasNoOpener (t : Text) : Prop := ∀ o ∈ openers, ¬ o <:+: t

instance (t : Text) : Decidable (HasNoOpener t) := inferInstanceAs (Decidable (∀ _ ∈ openers, _))

section Literal

variable {c d : Char} {lit r : Text}

theorem HasNoOpener.tail (h : HasNoOpener (c :: r)) : HasNoOpener r := by
  intro o ho hwithin
  exact h o ho (hwithin.trans (List.suffix_cons c r).isInfix)

/-- Two characters at the front of a text do not begin a tag. -/
theorem HasNoOpener.opener?_eq_none (h : HasNoOpener (c :: d :: r)) :
    (if c = '\x7b' then opener? d else none) = none := by
  have hfront {o : Text} (ho : o ∈ openers) : o ≠ [c, d] := by
    rintro rfl
    exact h _ ho ⟨[], r, rfl⟩
  split
  · next hc =>
    unfold opener?
    split
    · exact absurd (by rw [hc]; rfl) (hfront (List.mem_cons_self ..))
    · exact absurd (by rw [hc]; rfl) (hfront (List.mem_cons_of_mem _ List.mem_cons_self))
    · exact absurd (by rw [hc]; rfl)
        (hfront (List.mem_cons_of_mem _ (List.mem_cons_of_mem _ List.mem_cons_self)))
    · rfl
  · rfl

/-- A text in which no tag begins is literal text to its end. -/
theorem splitAtTag_of_hasNoOpener (h : HasNoOpener lit) : splitAtTag lit = (lit, none) := by
  fun_induction splitAtTag lit with
  | case1 => rfl
  | case2 c => rfl
  | case3 c d r opener hopener => cases h.opener?_eq_none.symm.trans hopener
  | case4 c d r hnone ih => rw [ih h.tail]

/-- If it does not end in a brace, it is literal text whatever comes behind it. -/
theorem beginsNoTag_of_hasNoOpener (h : HasNoOpener lit) (hlast : lit.getLast? ≠ some '\x7b') :
    beginsNoTag lit = true := by
  fun_induction beginsNoTag lit with
  | case1 => rfl
  | case2 c => simpa using hlast
  | case3 c d r ih =>
    rw [Bool.and_eq_true]
    refine ⟨?_, ih h.tail (by simpa [List.getLast?_cons_cons] using hlast)⟩
    by_cases hc : c = '\x7b'
    · have hnone := h.opener?_eq_none
      rw [if_pos hc] at hnone
      rw [hnone]
      simp
    · simp [hc]

end Literal

/-! ## Sequences of segments -/

namespace Segment

/-- A segment as a template spells it. -/
def source : Segment → Text
  | literal t => t
  | slot name => slotStart ++ (name ++ slotEnd)

/-- What a segment renders to. -/
def value (slots : Slots) : Segment → Text
  | literal t => t
  | slot name => (slots.get? name).getD []

/-- Whether a segment is no slot without a value. -/
def isPresent (slots : Slots) : Segment → Bool
  | literal _ => true
  | slot name => (slots.get? name).isSome

end Segment

open Segment

/-- The text of a template with the given segments. -/
def sourceOf (ps : List Segment) : Text := ps.flatMap source

/-- The segments, behind some literal text, are read as they are meant.  What stands between two
slots is one literal text: no tag begins in it, and it does not end in a brace in front of a
slot. -/
def IsPlainBehind (lit : Text) : List Segment → Prop
  | [] => HasNoOpener lit
  | literal t :: ps => IsPlainBehind (lit ++ t) ps
  | slot name :: ps => HasNoOpener lit ∧ lit.getLast? ≠ some '\x7b' ∧ IsWord name
    ∧ globalText? name = none ∧ IsPlainBehind [] ps

/-- The segments are read as they are meant. -/
def IsPlain (ps : List Segment) : Prop := IsPlainBehind [] ps

instance (name : Text) : Decidable (IsWord name) :=
  decidable_of_iff ((∀ c ∈ name.head?, isNameStart c = true) ∧ name ≠ []
      ∧ (∀ c ∈ name, isNamePart c = true) ∧ constants.lookup name = none ∧ name ≠ "not".toList)
    ⟨fun ⟨begins, ne_nil, parts, notConstant, ne_not⟩ =>
      ⟨begins, ne_nil, parts, notConstant, ne_not⟩,
    fun h => ⟨h.begins, h.ne_nil, h.parts, h.notConstant, h.ne_not⟩⟩

instance decidableIsPlainBehind : (lit : Text) → (ps : List Segment) →
    Decidable (IsPlainBehind lit ps)
  | lit, [] => inferInstanceAs (Decidable (HasNoOpener lit))
  | lit, literal t :: ps => decidableIsPlainBehind (lit ++ t) ps
  | lit, slot name :: ps =>
    have := decidableIsPlainBehind [] ps
    inferInstanceAs (Decidable (HasNoOpener lit ∧ lit.getLast? ≠ some '\x7b' ∧ IsWord name
      ∧ globalText? name = none ∧ IsPlainBehind [] ps))

instance (ps : List Segment) : Decidable (IsPlain ps) := decidableIsPlainBehind [] ps

/-- All slots among the segments have values. -/
def AllPresent (slots : Slots) (ps : List Segment) : Prop := ∀ p ∈ ps, p.isPresent slots = true

instance (slots : Slots) (ps : List Segment) : Decidable (AllPresent slots ps) :=
  inferInstanceAs (Decidable (∀ _ ∈ ps, _))

/-- The parts of a template, which begins with some literal text. -/
def partsBehind (lit : Text) : List Segment → List Part
  | [] => [.text lit]
  | literal t :: ps => partsBehind (lit ++ t) ps
  | slot name :: ps =>
    .text lit :: .slot name (name ++ slotEnd ++ sourceOf ps) :: partsBehind [] ps

section Sequences

variable {lit name t : Text} {slots : Slots} {ps qs before after : List Segment}

theorem allPresent_literal : AllPresent slots (literal t :: ps) ↔ AllPresent slots ps :=
  List.forall_mem_cons.trans (and_iff_right rfl)

theorem allPresent_slot : AllPresent slots (slot name :: ps)
    ↔ (slots.get? name).isSome = true ∧ AllPresent slots ps := List.forall_mem_cons

theorem sourceOf_slot (name : Text) (ps : List Segment) :
    sourceOf (slot name :: ps) = slotStart ++ (name ++ slotEnd ++ sourceOf ps) := by
  rw [sourceOf, List.flatMap_cons, source, List.append_assoc, ← sourceOf]

/-- A template is read as its segments. -/
theorem parts_sourceOf (h : IsPlainBehind lit ps) :
    parts false (lit ++ sourceOf ps) = .ok (partsBehind lit ps) := by
  induction ps generalizing lit with
  | nil =>
    rw [sourceOf, List.flatMap_nil, List.append_nil]
    exact parts_of_splitAtTag (splitAtTag_of_hasNoOpener h)
  | cons p ps ih =>
    cases p with
    | literal t =>
      rw [sourceOf, List.flatMap_cons, source, ← List.append_assoc]
      exact ih h
    | slot name =>
      obtain ⟨hlit, hlast, hword, -, hrest⟩ := h
      rw [sourceOf, List.flatMap_cons]
      apply parts_cons (beginsNoTag_of_hasNoOpener hlit hlast)
      · rw [source, List.append_assoc]
        exact splitAtTag_slotStart _
      · exact readTag_of_readSlot (readSlot_word hword _ (sourceOf ps))
      · exact ih hrest

/-- Where all slots have values, these take their places. -/
theorem fill_of_allPresent (hall : AllPresent slots ps) :
    fill slots (partsBehind lit ps) = .ok (lit ++ ps.flatMap (value slots)) := by
  induction ps generalizing lit with
  | nil => rfl
  | cons p ps ih =>
    cases p with
    | literal t =>
      rw [partsBehind, ih (allPresent_literal.mp hall), List.flatMap_cons, value, List.append_assoc]
    | slot name =>
      obtain ⟨hname, hrest⟩ := allPresent_slot.mp hall
      obtain ⟨v, hv⟩ := Option.isSome_iff_exists.mp hname
      rw [partsBehind, fill, fill, hv, Option.some_or, ih hrest, List.flatMap_cons, value, hv]
      rfl

/-- The first slot without a value ends the rendering. -/
theorem fill_of_absent (hglobal : globalText? name = none) (hall : AllPresent slots before)
    (habsent : slots.get? name = none) :
    fill slots (partsBehind lit (before ++ slot name :: after))
      = .error (name ++ slotEnd ++ sourceOf after) := by
  induction before generalizing lit with
  | nil =>
    rw [List.nil_append, partsBehind, fill, fill, habsent, hglobal]
    rfl
  | cons p before ih =>
    rw [List.cons_append]
    cases p with
    | literal t => rw [partsBehind, ih (allPresent_literal.mp hall)]
    | slot other =>
      obtain ⟨hother, hrest⟩ := allPresent_slot.mp hall
      obtain ⟨v, hv⟩ := Option.isSome_iff_exists.mp hother
      rw [partsBehind, fill, fill, hv, Option.some_or, ih hrest]
      rfl

theorem globalText?_of_isPlainBehind (h : IsPlainBehind lit ps) (hname : slot name ∈ ps) :
    globalText? name = none := by
  induction ps generalizing lit with
  | nil => cases hname
  | cons p ps ih =>
    cases p with
    | literal t => exact ih h (by simpa using hname)
    | slot other =>
      obtain ⟨-, -, -, hglobal, hrest⟩ := h
      rcases List.mem_cons.mp hname with heq | hname
      · rw [Segment.slot.inj heq, hglobal]
      · exact ih hrest hname

/-- A template of literal texts and slots is not left to the engine. -/
theorem not_isBeyond_partsBehind : (partsBehind lit ps).any Part.isBeyond = false := by
  induction ps generalizing lit with
  | nil => rfl
  | cons p ps ih =>
    cases p with
    | literal t => exact ih
    | slot name => exact ih

/-- The line on which the end of a template begins. -/
theorem lineOf_append (t place : Text) : lineOf (t ++ place) place = t.count '\n' + 1 := by
  have hlength : (t ++ place).length - place.length = t.length := by
    rw [List.length_append, Nat.add_sub_cancel]
  rw [lineOf, hlength, List.take_left' rfl]

/-! ## Rendering -/

variable [Engine]

theorem render_of_allPresent (h : IsPlain ps) (hall : AllPresent slots ps) (template : Text) :
    render template (sourceOf ps) slots = .ok (ps.flatMap (value slots)) := by
  have hparts := parts_sourceOf h
  rw [List.nil_append] at hparts
  exact render_of_fill hparts (fill_of_allPresent hall) template

theorem render_of_absent (h : IsPlain (before ++ slot name :: after))
    (hall : AllPresent slots before) (habsent : slots.get? name = none) (template : Text) :
    render template (sourceOf (before ++ slot name :: after)) slots
      = .error ⟨template, .undefinedValue, (sourceOf before).count '\n' + 1⟩ := by
  have hglobal := globalText?_of_isPlainBehind h
    (List.mem_append_right before (List.mem_cons_self (a := slot name)))
  have hparts := parts_sourceOf h
  have hsource : sourceOf (before ++ slot name :: after)
      = sourceOf before ++ slotStart ++ (name ++ slotEnd ++ sourceOf after) := by
    rw [List.append_assoc, ← sourceOf_slot, sourceOf, List.flatMap_append, ← sourceOf, ← sourceOf]
  have hstart : slotStart.count '\n' = 0 := by decide
  rw [List.nil_append] at hparts
  rw [render_of_parts hparts not_isBeyond_partsBehind, fill_of_absent hglobal hall habsent, hsource,
    Except.mapError, lineOf_append, List.count_append, hstart, Nat.add_zero]

omit [Engine] in
/-- If not all slots have values, there is a first one without. -/
theorem exists_first_absent (h : ¬ AllPresent slots ps) : ∃ before first after,
    ps = before ++ slot first :: after ∧ AllPresent slots before ∧ slots.get? first = none := by
  induction ps with
  | nil => exact absurd (List.forall_mem_nil _) h
  | cons p ps ih =>
    cases p with
    | literal t =>
      rw [allPresent_literal] at h
      obtain ⟨before, first, after, rfl, hall, hfirst⟩ := ih h
      exact ⟨literal t :: before, first, after, rfl, allPresent_literal.mpr hall, hfirst⟩
    | slot other =>
      cases hother : slots.get? other with
      | none => exact ⟨[], other, ps, rfl, List.forall_mem_nil _, hother⟩
      | some v =>
        have hsome : (slots.get? other).isSome = true := by rw [hother]; rfl
        rw [allPresent_slot, not_and] at h
        obtain ⟨before, first, after, rfl, hall, hfirst⟩ := ih (h hsome)
        exact ⟨slot other :: before, first, after, rfl, allPresent_slot.mpr ⟨hsome, hall⟩, hfirst⟩

/-- A template of literal texts and slots renders to the literal texts with the values in place of
the slots, whatever is in the values.  If a slot has no value, the first such slot is reported
with the name of the template and the line of the slot.  Two such templates, one behind the
other, render to what they render to one behind the other, if no tag begins where they meet. -/
theorem render_sourceOf (h : IsPlain ps) (template : Text) (slots : Slots) :
    (AllPresent slots ps →
        render template (sourceOf ps) slots = .ok (ps.flatMap (value slots)))
      ∧ (¬ AllPresent slots ps →
        ∃ before first after, ps = before ++ slot first :: after ∧ AllPresent slots before
          ∧ slots.get? first = none ∧ render template (sourceOf ps) slots
            = .error ⟨template, .undefinedValue, (sourceOf before).count '\n' + 1⟩)
      ∧ ∀ qs, IsPlain qs → IsPlain (ps ++ qs) → AllPresent slots ps → AllPresent slots qs →
        ∃ a b, render template (sourceOf ps) slots = .ok a
          ∧ render template (sourceOf qs) slots = .ok b
          ∧ render template (sourceOf ps ++ sourceOf qs) slots = .ok (a ++ b) := by
  refine ⟨fun hall => render_of_allPresent h hall template, ?_, ?_⟩
  · intro hsome
    obtain ⟨before, first, after, rfl, hall, hfirst⟩ := exists_first_absent hsome
    exact ⟨before, first, after, rfl, hall, hfirst, render_of_absent h hall hfirst template⟩
  · intro qs hqs hboth hps hqs'
    refine ⟨_, _, render_of_allPresent h hps template, render_of_allPresent hqs hqs' template, ?_⟩
    rw [sourceOf, sourceOf, ← List.flatMap_append, ← sourceOf, ← List.flatMap_append]
    exact render_of_allPresent hboth (List.forall_mem_append.mpr ⟨hps, hqs'⟩) template

end Sequences

/-! ## Where two templates meet -/

namespace Sample

/-- A template that ends in a brace. -/
def braced : List Segment :=
  [.literal "\x7b '".toList, .slot "x".toList, .literal "'\n".toList, .literal "\x7b".toList]

def closed : List Segment := [.literal " \x7d ".toList, .slot "x".toList]

/-- A value that looks like a template. -/
def nested : Slots := .ofList [("x".toList, "\x7b\x7b x \x7d\x7d\n\"".toList)]

end Sample

theorem render_sourceOf_braced :
    IsPlain Sample.braced
      ∧ render "t".toList (sourceOf Sample.braced) Sample.nested
        = .ok "\x7b '\x7b\x7b x \x7d\x7d\n\"'\n\x7b".toList
      ∧ (∃ line, render "t".toList (sourceOf Sample.braced) .empty
        = .error ⟨"t".toList, .undefinedValue, line⟩)
      ∧ render "t".toList (sourceOf Sample.braced ++ sourceOf Sample.closed) Sample.nested
        = .ok ("\x7b '\x7b\x7b x \x7d\x7d\n\"'\n\x7b".toList
          ++ " \x7d \x7b\x7b x \x7d\x7d\n\"".toList) := by
  have hplain : IsPlain Sample.braced := by decide
  have hclosed : IsPlain Sample.closed := by decide
  have hbehind : IsPlain (Sample.braced ++ Sample.closed) := by decide
  obtain ⟨hall, -, happend⟩ := render_sourceOf hplain "t".toList Sample.nested
  obtain ⟨hall', -, -⟩ := render_sourceOf hclosed "t".toList Sample.nested
  obtain ⟨-, habsent, -⟩ := render_sourceOf hplain "t".toList .empty
  obtain ⟨before, first, after, -, -, -, herror⟩ := habsent (by decide)
  obtain ⟨a, b, ha, hb, hboth⟩ := happend Sample.closed hclosed hbehind (by decide) (by decide)
  have hleft := hall (by decide)
  rw [hleft] at ha
  rw [hall' (by decide)] at hb
  rw [← Except.ok.inj ha, ← Except.ok.inj hb] at hboth
  exact ⟨hplain, hleft.trans (by decide), ⟨_, herror⟩, hboth.trans (by decide)⟩

/-- Two literal texts may make a slot where they meet. -/
theorem not_render_append : ¬ ∀ (ps qs both : List Segment) (slots : Slots) (template a b : Text),
    IsPlain ps → IsPlain qs → IsPlain both → sourceOf both = sourceOf ps ++ sourceOf qs →
      AllPresent slots ps → AllPresent slots qs → AllPresent slots both →
      render template (sourceOf ps) slots = .ok a → render template (sourceOf qs) slots = .ok b →
      render template (sourceOf both) slots = .ok (a ++ b) := by
  intro h
  have hleft : IsPlain [.literal "\x7b".toList] := by decide
  have hright : IsPlain [.literal "\x7b x \x7d\x7d".toList] := by decide
  have hboth : IsPlain [.slot "x".toList] := by decide
  have hslot : AllPresent Sample.nested [.slot "x".toList] := by decide
  have hliteral (t : Text) : AllPresent Sample.nested [.literal t] :=
    allPresent_literal.mpr (List.forall_mem_nil _)
  have hrender := h _ _ _ Sample.nested [] _ _ hleft hright hboth rfl (hliteral _) (hliteral _)
    hslot (render_of_allPresent hleft (hliteral _) []) (render_of_allPresent hright (hliteral _) [])
  rw [render_of_allPresent hboth hslot] at hrender
  exact absurd hrender (by decide)

end TableScaffold.Template
