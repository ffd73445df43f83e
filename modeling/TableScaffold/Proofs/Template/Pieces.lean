import TableScaffold.Proofs.Result
import TableScaffold.Proofs.Text.Letter
import TableScaffold.Template.Builtin
import TableScaffold.Template.Part

set_option autoImplicit false

/-!
# Templates in pieces

A template that is written down in pieces is read as these pieces, as long as no literal
text in it begins a tag (`exists_parts`).  So it always renders if every slot has a
value, and what it renders to is the pieces with the values in place of the slots
(`render_sourceOfLines`).
-/

namespace TableScaffold.Template

/-! ## The inside of a slot -/

section Words

variable {c : Char}

theorem not_isTagBlank_of_isNameStart (h : isNameStart c = true) : isTagBlank c = false := by
  rw [Bool.eq_false_iff]
  intro hblank
  simp only [isTagBlank, Bool.or_eq_true, decide_eq_true_eq] at hblank
  rcases hblank with (((rfl | rfl) | rfl) | rfl) | rfl <;> exact absurd h (by decide)

theorem not_isDigit_of_isNameStart (h : isNameStart c = true) : c.isDigit = false := by
  rw [isNameStart, Bool.or_eq_true, decide_eq_true_iff] at h
  rcases h with halpha | rfl
  · exact Text.not_isDigit_of_isAlpha halpha
  · decide

theorem Mark.ofText?_of_isNameStart (h : isNameStart c = true) (r : Text) :
    Mark.ofText? c r = none := by
  have hchar : Mark.ofChar? c = none := by
    unfold Mark.ofChar?
    split <;> first | rfl | exact absurd h (by decide)
  have hpair (d : Char) : Mark.ofPair? c d = none := by
    unfold Mark.ofPair?
    split <;> first | rfl | exact absurd h (by decide)
  unfold Mark.ofText?
  split
  · rw [hchar]
    rfl
  · rw [hpair, hchar]
    rfl

theorem tagEnd?_of_isNameStart (h : isNameStart c = true) (r : Text) :
    tagEnd? .slot c r = none := by
  unfold tagEnd?
  rw [if_neg, TagKind.closing, Text.dropPrefix?, if_neg]
  · rfl
  · rintro rfl
    exact absurd h (by decide)
  · simp only [Bool.or_eq_true, decide_eq_true_eq]
    rintro (rfl | rfl) <;> exact absurd h (by decide)

/-- A name that a slot holds as one token. -/
structure IsWord (name : Text) : Prop where
  begins : ∀ c ∈ name.head?, isNameStart c = true
  ne_nil : name ≠ []
  parts : ∀ c ∈ name, isNamePart c = true
  notConstant : constants.lookup name = none
  ne_not : name ≠ "not".toList

/-- The end of a slot, behind what it holds. -/
def slotEnd : Text := [' ', '\x7d', '\x7d']

theorem nextToken_word {name : Text} (h : IsWord name) (r : Text) :
    nextToken .slot true (' ' :: name ++ slotEnd ++ r)
      = .ok (some (name ++ slotEnd ++ r, .name name, slotEnd ++ r)) := by
  obtain ⟨c, w, rfl⟩ := List.exists_cons_of_ne_nil h.ne_nil
  have hstart : isNameStart c = true := h.begins c rfl
  have hparts : ∀ d ∈ w, isNamePart d = true := fun d hd => h.parts d (List.mem_cons_of_mem c hd)
  have hdrop : (' ' :: (c :: w) ++ slotEnd ++ r).dropWhile isTagBlank
      = c :: (w ++ (slotEnd ++ r)) := by
    rw [List.cons_append, List.cons_append, List.dropWhile_cons_of_pos (by decide),
      List.cons_append, List.cons_append,
      List.dropWhile_cons_of_neg (by simp [not_isTagBlank_of_isNameStart hstart]), List.append_assoc]
  have htake : (w ++ (slotEnd ++ r)).takeWhile isNamePart = w := by
    rw [List.takeWhile_append_of_pos hparts]
    exact List.append_nil w
  have hrest : (w ++ (slotEnd ++ r)).dropWhile isNamePart = slotEnd ++ r :=
    List.dropWhile_append_of_pos hparts
  have hquote : ¬ (c = '\'' || c = '"') = true := by
    simp only [Bool.or_eq_true, decide_eq_true_eq]
    rintro (rfl | rfl) <;> exact absurd hstart (by decide)
  unfold nextToken tagToken
  rw [hdrop]
  dsimp only
  rw [if_pos rfl, tagEnd?_of_isNameStart hstart]
  dsimp only
  rw [if_neg hquote, not_isDigit_of_isNameStart hstart, if_neg Bool.false_ne_true,
    Mark.ofText?_of_isNameStart hstart]
  dsimp only
  rw [if_pos hstart, htake, hrest, List.cons_append, List.cons_append, List.append_assoc]

theorem nextToken_slotEnd (r : Text) :
    nextToken .slot true (slotEnd ++ r)
      = .ok (some (['\x7d', '\x7d'] ++ r, .tagEnd .slot false, r)) := rfl

theorem tagTokens_of_token (balance : Int) {t place rest : Text} {token : TagToken}
    (h : nextToken .slot (balance = 0) t = .ok (some (place, token, rest)))
    (hbalance : token.balance = 0) (hne : ∀ kind trim, token ≠ .tagEnd kind trim) :
    tagTokens .slot balance t
      = ((place, token) :: (tagTokens .slot balance rest).1,
        (tagTokens .slot balance rest).2) := by
  rw [tagTokens]
  split
  · next h' => cases h.symm.trans h'
  · next h' => cases h.symm.trans h'
  · next h' =>
    cases h.symm.trans h'
    exact absurd rfl (hne _ _)
  · next h' =>
    cases h.symm.trans h'
    rw [hbalance, Int.add_zero]

theorem tagTokens_of_tagEnd (balance : Int) {t place rest : Text} {trim : Bool}
    (h : nextToken .slot (balance = 0) t = .ok (some (place, .tagEnd .slot trim, rest))) :
    tagTokens .slot balance t = ([(place, .tagEnd .slot trim)], .closed trim rest) := by
  rw [tagTokens]
  split
  · next h' => cases h.symm.trans h'
  · next h' => cases h.symm.trans h'
  · next h' =>
    cases h.symm.trans h'
    rfl
  · next hne h' =>
    cases h.symm.trans h'
    exact absurd rfl (hne _ _)

/-- The tokens of a slot that holds one token. -/
theorem tagTokens_single {t place r : Text} {token : TagToken}
    (h : nextToken .slot true t = .ok (some (place, token, slotEnd ++ r)))
    (hbalance : token.balance = 0) (hne : ∀ kind trim, token ≠ .tagEnd kind trim) :
    tagTokens .slot 0 t
      = ([(place, token), (['\x7d', '\x7d'] ++ r, .tagEnd .slot false)], .closed false r) := by
  rw [tagTokens_of_token 0 h hbalance hne,
    tagTokens_of_tagEnd 0 (nextToken_slotEnd r)]

/-- A name and the end of the slot are a well-formed expression. -/
theorem check_word {name : Text} (h : IsWord name) (start place behind : Text) (ending : TagEnding) :
    Reader.check { last := start } ending
      [(place, .name name), (behind, .tagEnd .slot false)] = .ok () := by
  have hread : Reader.read { last := start } place (.name name)
      = .ok (({ last := start } : Reader).moveTo place (.behind .word)) := by
    have hdepth : ({ last := start } : Reader).depth = 1 := rfl
    have hnot : ¬ (true && decide (name = "not".toList)) = true := by
      rw [Bool.true_and, decide_eq_true_eq]
      exact h.ne_not
    unfold Reader.read Reader.readWanted
    dsimp only
    rw [hdepth, if_neg (by decide), if_neg hnot]
    unfold Reader.readOperand
    rw [hdepth, if_neg (by decide)]
    dsimp only
    rw [h.notConstant]
    rfl
  unfold Reader.check
  dsimp only
  rw [hread]
  rfl

theorem slotValue_word {name : Text} (h : IsWord name) (start place : Text) :
    slotValue start [(place, .name name)] = .slot name place := by
  have hparentheses : dropParentheses [(place, .name name)] = [(place, .name name)] := by
    rw [dropParentheses]
    rfl
  unfold slotValue
  rw [hparentheses]
  dsimp only
  rw [h.notConstant]

theorem readSlot_word {name : Text} (h : IsWord name) (place r : Text) :
    readSlot place (' ' :: name ++ slotEnd ++ r)
      = .ok (.slot name (name ++ slotEnd ++ r), false, r) := by
  unfold readSlot
  rw [tagTokens_single (nextToken_word h r) rfl nofun]
  dsimp only
  rw [check_word h]
  dsimp only
  rw [List.dropLast_cons_cons, List.dropLast_singleton, slotValue_word h]

end Words

theorem SlotName.isWord_spelling (n : SlotName) : IsWord n.spelling where
  begins := by cases n <;> decide
  ne_nil := by cases n <;> decide
  parts := by cases n <;> decide
  notConstant := by cases n <;> decide
  ne_not := by cases n <;> decide

/-! ## Quoted braces -/

/-- Whether a text is one brace. -/
def isBrace (t : Text) : Bool := t == ['\x7b'] || t == ['\x7d']

theorem isBrace_iff {t : Text} : isBrace t = true ↔ t = ['\x7b'] ∨ t = ['\x7d'] := by
  rw [isBrace, Bool.or_eq_true, beq_iff_eq, beq_iff_eq]

theorem nextToken_quoted {t : Text} (h : isBrace t = true) (r : Text) :
    nextToken .slot true (' ' :: '\'' :: t ++ '\'' :: (slotEnd ++ r))
      = .ok (some ('\'' :: t ++ '\'' :: (slotEnd ++ r), .string t, slotEnd ++ r)) := by
  have hunescape : Quoted.unescape? t = some t := by
    rcases isBrace_iff.mp h with rfl | rfl <;> simp [Quoted.unescape?, Quoted.pieces?, Quoted.ofPieces?]
  have hsource : Quoted.source? '\'' (t ++ '\'' :: (slotEnd ++ r)) = some (t, slotEnd ++ r) := by
    rcases isBrace_iff.mp h with rfl | rfl <;> rfl
  have hopen : tagEnd? .slot '\'' (t ++ '\'' :: (slotEnd ++ r)) = none := rfl
  unfold nextToken
  rw [List.cons_append, List.cons_append, List.dropWhile_cons_of_pos (by decide),
    List.dropWhile_cons_of_neg (by decide)]
  unfold tagToken
  dsimp only
  rw [if_pos rfl, hopen]
  dsimp only
  rw [if_pos (by decide), hsource]
  dsimp only
  rw [hunescape]

theorem check_string (start place behind value : Text) (ending : TagEnding) :
    Reader.check { last := start } ending
      [(place, .string value), (behind, .tagEnd .slot false)] = .ok () := rfl

theorem slotValue_string (start place value : Text) :
    slotValue start [(place, .string value)] = .text value := by
  have hparentheses : dropParentheses [(place, .string value)] = [(place, .string value)] := by
    rw [dropParentheses]
    rfl
  unfold slotValue
  rw [hparentheses]
  change Part.text (value ++ []) = .text value
  rw [List.append_nil]

theorem readSlot_quoted {t : Text} (h : isBrace t = true) (place r : Text) :
    readSlot place (' ' :: '\'' :: t ++ '\'' :: (slotEnd ++ r)) = .ok (.text t, false, r) := by
  unfold readSlot
  rw [tagTokens_single (nextToken_quoted h r) rfl nofun]
  dsimp only
  rw [check_string]
  dsimp only
  rw [List.dropLast_cons_cons, List.dropLast_singleton, slotValue_string]

/-! ## Literal text -/

/-- Whether no tag begins in a text, whatever comes behind it. -/
def beginsNoTag : Text → Bool
  | [] => true
  | [c] => c ≠ '\x7b'
  | c :: d :: r => !(c = '\x7b' && (opener? d).isSome) && beginsNoTag (d :: r)

theorem splitAtTag_append {lit : Text} (h : beginsNoTag lit = true) (t : Text) :
    splitAtTag (lit ++ t) = (lit ++ (splitAtTag t).1, (splitAtTag t).2) := by
  fun_induction beginsNoTag lit with
  | case1 => rfl
  | case2 c =>
    have hc : c ≠ '\x7b' := of_decide_eq_true h
    cases t with
    | nil => rfl
    | cons d r =>
      rw [List.cons_append, List.nil_append, splitAtTag, if_neg hc]
      rfl
  | case3 c d r ih =>
    rw [Bool.and_eq_true] at h
    have hno : (if c = '\x7b' then opener? d else none) = none := by
      split
      · next hc => simpa [hc] using h.1
      · rfl
    rw [List.cons_append, List.cons_append, splitAtTag, hno]
    dsimp only
    rw [← List.cons_append, ih h.2]
    rfl

/-! ## Whole templates -/

namespace Piece

/-- The pieces of some lines, with line feeds between the lines. -/
def ofLines : List (List Piece) → List Piece
  | [] => []
  | [l] => l
  | l :: m :: ls => l ++ text "\n" :: ofLines (m :: ls)

/-- The literal text before the first tag, and the tags with the literal text behind
each of them. -/
def blocks : List Piece → Text × List (Piece × Text)
  | [] => ([], [])
  | text t :: ps => (t.toList ++ (blocks ps).1, (blocks ps).2)
  | p :: ps => ([], (p, (blocks ps).1) :: (blocks ps).2)

/-- What a piece renders to, with the given values of the slots. -/
def value (v : SlotName → Text) : Piece → Text
  | text t => t.toList
  | slot name => v name
  | quoted t => t.toList

/-- Whether a piece is a tag that is read as it is meant. -/
def isTag : Piece → Bool
  | text _ => false
  | slot _ => true
  | quoted t => isBrace t.toList

/-- The literal text that a piece is, if it is no tag. -/
def literal? : Piece → Option Text
  | text t => some t.toList
  | _ => none

/-- The slot that a piece is. -/
def slotName? : Piece → Option SlotName
  | slot name => some name
  | _ => none

/-- The literal text before the first tag, and that behind each of the tags; `none` stands
for a tag. -/
def literals : List (Option Text) → List Text
  | [] => [[]]
  | some t :: ts => (t ++ (literals ts).headD []) :: (literals ts).tail
  | none :: ts => [] :: literals ts

/-- The pieces are read as they are meant: no literal text among them begins a tag. -/
structure IsReadable (ps : List Piece) : Prop where
  isTag : ∀ p ∈ ps, p.literal? = none → p.isTag = true
  literals : ∀ t ∈ literals (ps.map literal?), beginsNoTag t = true

/-- The slots have the given values, as far as they occur in some pieces. -/
def HaveValues (slots : Slots) (v : SlotName → Text) (ps : List Piece) : Prop :=
  ∀ n, slot n ∈ ps → slots.get? n.spelling = some (v n)

theorem flatMap_ofLines {f : Piece → Text} (hf : f (text "\n") = ['\n'])
    (lines : List (List Piece)) :
    (ofLines lines).flatMap f = Text.join ['\n'] (lines.map (·.flatMap f)) := by
  fun_induction ofLines lines with
  | case1 => rfl
  | case2 l => rfl
  | case3 l m ls ih =>
    rw [List.flatMap_append, List.flatMap_cons, ih, hf, ← List.append_assoc]
    rfl

theorem flatMap_blocks {f : Piece → Text} (hf : ∀ t, f (text t) = t.toList) (ps : List Piece) :
    ps.flatMap f = (blocks ps).1 ++ (blocks ps).2.flatMap fun b => f b.1 ++ b.2 := by
  fun_induction blocks ps with
  | case1 => rfl
  | case2 t ps ih => rw [List.flatMap_cons, hf, ih, List.append_assoc]
  | case3 p ps _ ih => rw [List.flatMap_cons, ih, List.nil_append, List.flatMap_cons, List.append_assoc]

theorem literal?_eq_none {p : Piece} (h : ∀ t, p = text t → False) : p.literal? = none := by
  cases p with
  | text t => exact absurd rfl (h t)
  | slot _ => rfl
  | quoted _ => rfl

theorem fst_of_mem_blocks {ps : List Piece} {b : Piece × Text} (h : b ∈ (blocks ps).2) :
    b.1 ∈ ps ∧ b.1.literal? = none := by
  fun_induction blocks ps with
  | case1 => cases h
  | case2 t ps ih =>
    obtain ⟨hmem, hnone⟩ := ih h
    exact ⟨.tail _ hmem, hnone⟩
  | case3 p ps hp ih =>
    cases h with
    | head => exact ⟨.head _, literal?_eq_none hp⟩
    | tail _ h =>
      obtain ⟨hmem, hnone⟩ := ih h
      exact ⟨.tail _ hmem, hnone⟩

theorem literals_eq_blocks (ps : List Piece) :
    literals (ps.map literal?) = (blocks ps).1 :: (blocks ps).2.map (·.2) := by
  fun_induction blocks ps with
  | case1 => rfl
  | case2 t ps ih =>
    rw [List.map_cons, literal?, literals, ih]
    rfl
  | case3 p ps hp ih => rw [List.map_cons, literal?_eq_none hp, literals, ih, List.map_cons]

theorem IsReadable.blocks {ps : List Piece} (h : IsReadable ps) :
    beginsNoTag (blocks ps).1 = true
      ∧ ∀ b ∈ (Piece.blocks ps).2, b.1.isTag = true ∧ beginsNoTag b.2 = true := by
  have hliterals := h.literals
  rw [literals_eq_blocks, List.forall_mem_cons] at hliterals
  obtain ⟨hfirst, hothers⟩ := hliterals
  refine ⟨hfirst, fun b hb => ?_⟩
  obtain ⟨hmem, hnone⟩ := fst_of_mem_blocks hb
  exact ⟨h.isTag b.1 hmem hnone, hothers b.2 (List.mem_map_of_mem hb)⟩

end Piece

open Piece

/-- The beginning of a slot, in front of what it holds. -/
def slotStart : Text := ['\x7b', '\x7b', ' ']

theorem source_slot (name : SlotName) :
    (slot name).source = slotStart ++ (name.spelling ++ slotEnd) := by
  have hstart : "\x7b\x7b ".toList = slotStart := by decide
  have hend : " \x7d\x7d".toList = slotEnd := by decide
  change "\x7b\x7b ".toList ++ name.spelling ++ " \x7d\x7d".toList = _
  rw [hstart, hend, List.append_assoc]

theorem source_quoted (t : String) :
    (quoted t).source = slotStart ++ ('\'' :: t.toList ++ '\'' :: slotEnd) := by
  have hstart : "\x7b\x7b '".toList = slotStart ++ ['\''] := by decide
  have hend : "' \x7d\x7d".toList = '\'' :: slotEnd := by decide
  change "\x7b\x7b '".toList ++ t.toList ++ "' \x7d\x7d".toList = _
  rw [hstart, hend, List.append_assoc, List.append_assoc]
  rfl

theorem splitAtTag_slotStart (r : Text) :
    splitAtTag (slotStart ++ r) = ([], some ⟨.tag .slot, slotStart ++ r, ' ' :: r⟩) := rfl

theorem readTag_of_readSlot {place t rest : Text} {part : Part}
    (h : readSlot place t = .ok (part, false, rest)) :
    readTag (.tag .slot) place t = .ok (some part, false, rest) := by
  unfold readTag
  dsimp only
  rw [h]

/-- What a tag is read as, and what it is filled with. -/
theorem exists_readTag {p : Piece} (hp : p.isTag = true) (rest : Text) :
    ∃ body part, splitAtTag (p.source ++ rest)
        = ([], some ⟨.tag .slot, p.source ++ rest, ' ' :: body⟩)
      ∧ readTag (.tag .slot) (p.source ++ rest) (' ' :: body) = .ok (some part, false, rest)
      ∧ ∀ slots v ps, HaveValues slots v [p] →
        fill slots (part :: ps) = (fill slots ps).map (p.value v ++ ·) := by
  cases p with
  | text t => cases hp
  | slot name =>
    refine ⟨name.spelling ++ slotEnd ++ rest, .slot name.spelling (name.spelling ++ slotEnd ++ rest),
      ?_, ?_, fun slots v ps hv => ?_⟩
    · rw [source_slot, List.append_assoc, splitAtTag_slotStart]
    · exact readTag_of_readSlot (readSlot_word name.isWord_spelling _ rest)
    · rw [fill, hv name (.head _)]
      rfl
  | quoted t =>
    refine ⟨'\'' :: t.toList ++ '\'' :: (slotEnd ++ rest), .text t.toList, ?_, ?_,
      fun slots v ps _ => ?_⟩
    · rw [source_quoted, List.append_assoc, splitAtTag_slotStart, List.append_assoc]
      rfl
    · exact readTag_of_readSlot (readSlot_quoted hp _ rest)
    · rfl

/-- A text with no tag is one part. -/
theorem parts_of_splitAtTag {lit : Text} (hsplit : splitAtTag lit = (lit, none)) :
    parts false lit = .ok [.text lit] := by
  rw [parts]
  split
  · next heq =>
    rw [if_neg Bool.false_ne_true, hsplit] at heq
    cases heq
    rfl
  · next heq =>
    rw [if_neg Bool.false_ne_true, hsplit] at heq
    cases heq

theorem parts_of_beginsNoTag {lit : Text} (h : beginsNoTag lit = true) :
    parts false lit = .ok [.text lit] := by
  apply parts_of_splitAtTag
  have happend := splitAtTag_append h []
  rwa [List.append_nil, splitAtTag, List.append_nil] at happend

/-- Literal text and the tag behind it are two parts. -/
theorem parts_cons {lit tag rest : Text} {part : Part} {body : Text} {ps : List Part}
    (hlit : beginsNoTag lit = true)
    (hsplit : splitAtTag (tag ++ rest) = ([], some ⟨.tag .slot, tag ++ rest, ' ' :: body⟩))
    (hread : readTag (.tag .slot) (tag ++ rest) (' ' :: body) = .ok (some part, false, rest))
    (hrest : parts false rest = .ok ps) :
    parts false (lit ++ (tag ++ rest)) = .ok (.text lit :: part :: ps) := by
  have hlead := splitAtTag_append hlit (tag ++ rest)
  rw [hsplit, List.append_nil] at hlead
  rw [parts]
  split
  · next heq =>
    rw [if_neg Bool.false_ne_true, hlead] at heq
    cases heq
  · next heq =>
    rw [if_neg Bool.false_ne_true, hlead] at heq
    cases heq
    split
    · next h => cases hread.symm.trans h
    · next h =>
      cases hread.symm.trans h
      rw [hrest]
      rfl

/-- What is written down in pieces is read and filled piece by piece. -/
theorem exists_parts {lit : Text} {bs : List (Piece × Text)} (hlit : beginsNoTag lit = true)
    (hbs : ∀ b ∈ bs, b.1.isTag = true ∧ beginsNoTag b.2 = true) :
    ∃ ps, parts false (lit ++ bs.flatMap fun b => b.1.source ++ b.2) = .ok ps
      ∧ ∀ slots v, HaveValues slots v (bs.map (·.1)) →
        fill slots ps = .ok (lit ++ bs.flatMap fun b => b.1.value v ++ b.2) := by
  induction bs generalizing lit with
  | nil =>
    refine ⟨[.text lit], ?_, fun slots v _ => rfl⟩
    rw [List.flatMap_nil, List.append_nil]
    exact parts_of_beginsNoTag hlit
  | cons b bs ih =>
    obtain ⟨⟨hp, hb⟩, hbs⟩ := List.forall_mem_cons.mp hbs
    obtain ⟨ps, hps, hfill⟩ := ih hb hbs
    obtain ⟨body, part, hsplit, hread, hpart⟩ :=
      exists_readTag hp (b.2 ++ bs.flatMap fun b => b.1.source ++ b.2)
    refine ⟨.text lit :: part :: ps, ?_, fun slots v hv => ?_⟩
    · rw [List.flatMap_cons, List.append_assoc]
      exact parts_cons hlit hsplit hread hps
    · have hhead : HaveValues slots v [b.1] := fun n hn => hv n (by simp at hn ⊢; exact .inl hn)
      have htail : HaveValues slots v (bs.map (·.1)) := fun n hn => hv n (List.mem_cons_of_mem _ hn)
      rw [fill, hpart slots v ps hhead, hfill slots v htail]
      simp [List.flatMap_cons, Except.map]

/-! ## Rendering -/

/-- What has a text is not left to the engine. -/
theorem not_isBeyond_of_fill {slots : Slots} {ps : List Part} {t : Text}
    (h : fill slots ps = .ok t) : ps.any Part.isBeyond = false := by
  induction ps generalizing t with
  | nil => rfl
  | cons p ps ih =>
    cases p with
    | text lit =>
      rw [fill] at h
      obtain ⟨rest, hrest, -⟩ := map_eq_ok.mp h
      exact ih hrest
    | slot name place =>
      rw [fill] at h
      split at h
      · cases h
      · obtain ⟨rest, hrest, -⟩ := map_eq_ok.mp h
        exact ih hrest
    | beyond place => cases h

section Rendering

variable [Engine] {template : Text} {slots : Slots} {ps : List Part}

/-- A template that has no statements and no expressions but names and constants is
filled here. -/
theorem render_of_parts (hparts : parts false template = .ok ps)
    (hslots : ps.any Part.isBeyond = false) (name : Text) :
    render name template slots = (fill slots ps).mapError fun place =>
      ⟨name, .undefinedValue, lineOf template place⟩ := by
  have hhere : isBeyondSlots template = false := by
    rw [isBeyondSlots, hparts]
    exact hslots
  rw [render, hhere, if_neg Bool.false_ne_true, fillTemplate, hparts]
  dsimp only
  cases fill slots ps <;> rfl

theorem render_of_fill {t : Text} (hparts : parts false template = .ok ps)
    (hfill : fill slots ps = .ok t) (name : Text) : render name template slots = .ok t := by
  rw [render_of_parts hparts (not_isBeyond_of_fill hfill), hfill]
  rfl

end Rendering

/-- The text that lines of pieces render to. -/
def textOfLines (v : SlotName → Text) (lines : List (List Piece)) : Text :=
  Text.join ['\n'] (lines.map (·.flatMap (value v)))

/-- A template in readable pieces renders to its pieces, if every slot has a value. -/
theorem render_sourceOfLines [Engine] {lines : List (List Piece)} (h : IsReadable (ofLines lines))
    {slots : Slots} {v : SlotName → Text} (hv : HaveValues slots v (ofLines lines)) (name : Text) :
    render name (sourceOfLines lines) slots = .ok (textOfLines v lines) := by
  have hfeed : "\n".toList = ['\n'] := by decide
  obtain ⟨hfirst, hothers⟩ := h.blocks
  obtain ⟨ps, hps, hfill⟩ := exists_parts hfirst hothers
  have hblocks : HaveValues slots v ((blocks (ofLines lines)).2.map (·.1)) := by
    intro n hn
    obtain ⟨b, hb, hn⟩ := List.mem_map.mp hn
    exact hv n (hn ▸ (fst_of_mem_blocks hb).1)
  have hsource : sourceOfLines lines = (blocks (ofLines lines)).1
      ++ (blocks (ofLines lines)).2.flatMap fun b => b.1.source ++ b.2 := by
    rw [← flatMap_blocks (fun _ => rfl), flatMap_ofLines hfeed]
    rfl
  have htext : textOfLines v lines = (blocks (ofLines lines)).1
      ++ (blocks (ofLines lines)).2.flatMap fun b => b.1.value v ++ b.2 := by
    rw [← flatMap_blocks (fun _ => rfl), flatMap_ofLines hfeed]
    rfl
  rw [htext]
  exact render_of_fill (hsource ▸ hps) (hfill slots v hblocks) name

end TableScaffold.Template
