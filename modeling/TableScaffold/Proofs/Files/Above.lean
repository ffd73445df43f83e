import TableScaffold.Proofs.Files.Place

set_option autoImplicit false

/-!
# The directories above a path

A path is taken apart into its first segment and the later ones, the last of them first.  The
directories above it are the paths up to each of its segments that name something
(`upTo`), and the directories above such a path are those that come after it in the list
(`above_upTo`).  A path up to a segment is the front of the paths up to the segments behind
it (`upTo_isPrefix`).
-/

namespace TableScaffold.Path

/-- The path up to a segment, which is the first one or comes first among the later ones, in
reverse; what stands there and names nothing is left out. -/
def upTo (first : Text) (later : List Text) : Path := ofReversed first (later.dropWhile isFiller)

/-- A first segment and later ones, with no slash in any of them. -/
def AreSegments (first : Text) (later : List Text) : Prop := ∀ s ∈ first :: later, '/' ∉ s

variable {first s : Text} {later : List Text}

theorem AreSegments.tail (h : AreSegments first (s :: later)) : AreSegments first later := by
  intro t ht
  apply h
  rcases List.mem_cons.mp ht with rfl | ht
  · exact List.mem_cons_self
  · exact List.mem_cons_of_mem _ (List.mem_cons_of_mem _ ht)

theorem areSegments_of_segments {p : Path} (h : segments p = first :: later) :
    AreSegments first later.reverse := by
  intro t ht
  have hp : t ∈ segments p := by
    rw [h]
    rwa [List.mem_cons, List.mem_reverse, ← List.mem_cons] at ht
  exact not_mem_of_mem_segments hp

theorem upTo_of_isFiller (h : isFiller s = true) : upTo first (s :: later) = upTo first later := by
  rw [upTo, List.dropWhile_cons_of_pos h, ← upTo]

theorem upTo_of_not_isFiller (h : isFiller s = false) :
    upTo first (s :: later) = Text.join ['/'] (first :: (s :: later).reverse) := by
  rw [upTo, List.dropWhile_cons_of_neg (by simp [h])]
  rfl

theorem upTo_nil_of_ne (h : first ≠ []) : upTo first [] = first := by
  cases first with
  | nil => contradiction
  | cons c first => rfl

theorem join_concat (first s : Text) (later : List Text) :
    Text.join ['/'] (first :: (s :: later).reverse)
      = Text.join ['/'] (first :: later.reverse) ++ '/' :: s := by
  rw [List.reverse_cons, ← List.cons_append, Text.join_append (List.cons_ne_nil _ _)
    (List.cons_ne_nil _ _), Text.join_singleton, List.append_assoc, List.singleton_append]

/-- A path up to a named segment is the one up to the segment before, or the root, and goes on
from there. -/
theorem upTo_concat (h : isFiller s = false) :
    upTo first (s :: later) = Text.join ['/'] (first :: later.reverse) ++ '/' :: s := by
  rw [upTo_of_not_isFiller h, join_concat]

/-- What leads to a segment stands at the front of what leads beyond it. -/
theorem upTo_isPrefix_join (first : Text) (later : List Text) :
    upTo first later <+: Text.join ['/'] (first :: later.reverse) ++ ['/'] := by
  induction later with
  | nil =>
    cases first with
    | nil => exact List.prefix_rfl
    | cons c first => exact List.prefix_append _ _
  | cons s later ih =>
    cases hs : isFiller s with
    | true =>
      rw [upTo_of_isFiller hs, join_concat]
      refine ih.trans ⟨s ++ ['/'], ?_⟩
      simp
    | false =>
      rw [upTo_of_not_isFiller hs]
      exact List.prefix_append _ _

theorem upTo_isPrefix (h : isFiller s = false) : upTo first later <+: upTo first (s :: later) := by
  refine (upTo_isPrefix_join first later).trans ⟨s, ?_⟩
  rw [upTo_concat h, List.append_assoc, List.singleton_append]

theorem upTo_ne_nil (first : Text) (later : List Text) : upTo first later ≠ [] := by
  induction later with
  | nil => cases first <;> exact List.cons_ne_nil _ _
  | cons s later ih =>
    cases hs : isFiller s with
    | true => rwa [upTo_of_isFiller hs]
    | false =>
      rw [upTo_concat hs]
      exact List.append_ne_nil_of_right_ne_nil _ (List.cons_ne_nil _ _)

theorem segments_upTo (hsegments : AreSegments first (s :: later)) (h : isFiller s = false) :
    segments (upTo first (s :: later)) = first :: (s :: later).reverse := by
  rw [upTo_of_not_isFiller h, segments, Text.splitOn_join (List.cons_ne_nil _ _)]
  intro t ht
  apply hsegments
  rwa [List.mem_cons, List.mem_reverse, ← List.mem_cons] at ht

theorem isAbsolute_join_segments (h : '/' ∉ first) (hlater : later ≠ []) :
    isAbsolute (Text.join ['/'] (first :: later)) = first.isEmpty := by
  obtain ⟨s, later, rfl⟩ := List.exists_cons_of_ne_nil hlater
  cases first with
  | nil => rfl
  | cons c first =>
    have hc : c ≠ '/' := by
      rintro rfl
      exact h List.mem_cons_self
    simpa [isAbsolute, Text.join] using hc

theorem isAbsolute_upTo (h : AreSegments first later) :
    isAbsolute (upTo first later) = first.isEmpty := by
  have hfirst : '/' ∉ first := h first List.mem_cons_self
  induction later with
  | nil =>
    cases first with
    | nil => rfl
    | cons c first => exact isAbsolute_of_not_mem hfirst
  | cons s later ih =>
    cases hs : isFiller s with
    | true =>
      rw [upTo_of_isFiller hs]
      exact ih h.tail
    | false =>
      rw [upTo_of_not_isFiller hs]
      apply isAbsolute_join_segments hfirst
      simp

/-- The directories above a path up to a segment are those above that segment. -/
theorem above_upTo (h : AreSegments first later) :
    above (upTo first later) = aboveReversed first later := by
  induction later with
  | nil =>
    cases first with
    | nil => decide
    | cons c first =>
      have hsegments : segments (upTo (c :: first) []) = [c :: first] :=
        segments_of_not_mem (h _ List.mem_cons_self)
      rw [above, hsegments]
      rfl
  | cons s later ih =>
    cases hs : isFiller s with
    | true =>
      rw [upTo_of_isFiller hs, ih h.tail, aboveReversed, if_pos hs]
    | false =>
      rw [above, segments_upTo h hs]
      dsimp only
      rw [List.reverse_reverse]

/-- A path up to a segment ends in no slash, unless it is the root. -/
theorem dropTrailingSlashes_upTo (h : AreSegments first later) :
    Workspace.dropTrailingSlashes (upTo first later) = upTo first later := by
  have hlast {p : Path} {c : Char} (hp : p.getLast? = some c) (hc : c ≠ '/') :
      Workspace.dropTrailingSlashes p = p := by
    obtain ⟨front, rfl⟩ := List.getLast?_eq_some_iff.mp hp
    simp [Workspace.dropTrailingSlashes, hc]
  have hname {t : Text} (ht : t ≠ []) (hslash : '/' ∉ t) : ∃ c, t.getLast? = some c ∧ c ≠ '/' := by
    refine ⟨t.getLast ht, List.getLast?_eq_some_getLast ht, ?_⟩
    intro heq
    exact hslash (heq ▸ List.getLast_mem ht)
  induction later with
  | nil =>
    cases first with
    | nil => decide
    | cons c first =>
      obtain ⟨d, hd, hne⟩ := hname (List.cons_ne_nil c first) (h _ List.mem_cons_self)
      exact hlast hd hne
  | cons s later ih =>
    cases hs : isFiller s with
    | true =>
      rw [upTo_of_isFiller hs]
      exact ih h.tail
    | false =>
      have hne : s ≠ [] := by
        rintro rfl
        contradiction
      obtain ⟨d, hd, hd'⟩ := hname hne (h s (List.mem_cons_of_mem _ List.mem_cons_self))
      refine hlast ?_ hd'
      rw [upTo_concat hs, List.append_cons, List.getLast?_append, hd, Option.some_or]

end TableScaffold.Path
