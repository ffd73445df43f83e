import Mathlib.Data.List.DropRight
import TableScaffold.Proofs.Naming.Distinct

set_option autoImplicit false

/-!
# Routes

The route of a table is made of words of small letters and digits with single dashes between
them, and holds the letters and digits of the table's name in order.  A dash stands where other
characters stand between two of them, and where the case changes (`ChangesCase`): between a
small letter and a capital, and in front of the last capital of several, if a small letter comes
next.  Digits between letters are passed over.  The words come from a scan with one character of
lookahead, which forgets the case at each cut; `breaks_caseWords` says that it cuts exactly where
the case changes, and `route_eq_join` puts this together for whole names.
-/

namespace TableScaffold

namespace Text

variable {c : Char}

theorem isLowercase_ascii (h : c.toNat < 128) : isLowercase c = c.isLower := by
  simp [isLowercase, h]

theorem isUppercase_ascii (h : c.toNat < 128) : isUppercase c = c.isUpper := by
  simp [isUppercase, h]

end Text

namespace Naming

/-! ## Breaks between words -/

/-- The first of some words make up a text. -/
def Breaks (words : List Text) (front : Text) : Prop :=
  ∃ us vs, words = us ++ vs ∧ us.flatten = front

section Breaks

variable {words more : List Text} {p front rest : Text}

theorem breaks_cons_of_ne_nil (hp : p ≠ []) (w : Text) (words : List Text) :
    Breaks (w :: words) (w ++ p) ↔ Breaks words p := by
  constructor
  · rintro ⟨us, vs, heq, hflat⟩
    cases us with
    | nil =>
      exact absurd (List.append_eq_nil_iff.mp hflat.symm).2 hp
    | cons u us =>
      obtain ⟨rfl, rfl⟩ := List.cons.inj heq
      exact ⟨us, vs, rfl, List.append_cancel_left hflat⟩
  · rintro ⟨us, vs, rfl, rfl⟩
    exact ⟨w :: us, vs, rfl, rfl⟩

/-- Behind other words. -/
theorem breaks_append_left (hp : p ≠ []) (words more : List Text) :
    Breaks (words ++ more) (words.flatten ++ p) ↔ Breaks more p := by
  induction words with
  | nil => rfl
  | cons w words ih =>
    rw [List.cons_append, List.flatten_cons, List.append_assoc, breaks_cons_of_ne_nil, ih]
    exact List.append_ne_nil_of_right_ne_nil _ hp

/-- In front of other words. -/
theorem breaks_append_right (h : words.flatten = p ++ rest) (hrest : rest ≠ []) :
    Breaks (words ++ more) p ↔ Breaks words p := by
  constructor
  · rintro ⟨us, vs, heq, hflat⟩
    rcases List.append_eq_append_iff.mp heq with ⟨as, rfl, -⟩ | ⟨as, rfl, -⟩
    · rw [List.flatten_append, h, List.append_assoc, List.append_right_eq_self] at hflat
      exact absurd (List.append_eq_nil_iff.mp hflat).1 hrest
    · exact ⟨us, as, rfl, hflat⟩
  · rintro ⟨us, vs, rfl, hflat⟩
    exact ⟨us, vs ++ more, List.append_assoc _ _ _, hflat⟩

/-- Where every character is replaced by one other, the breaks stay. -/
theorem breaks_map {f : Char → Char} (h : words.flatten = p ++ rest) :
    Breaks (words.map (List.map f)) (p.map f) ↔ Breaks words p := by
  constructor
  · rintro ⟨us, vs, heq, hflat⟩
    obtain ⟨us, vs, rfl, rfl, -⟩ := List.map_eq_append_iff.mp heq
    refine ⟨us, vs, rfl, ?_⟩
    rw [← List.map_flatten] at hflat
    rw [List.flatten_append] at h
    have hlength := congrArg List.length hflat
    rw [List.length_map, List.length_map] at hlength
    exact (List.append_inj h hlength).1
  · rintro ⟨us, vs, rfl, rfl⟩
    exact ⟨us.map (List.map f), vs.map (List.map f), List.map_append, List.map_flatten.symm⟩

/-- A dash stands between joined words where they break. -/
theorem dash_iff_breaks (hwords : ∀ w ∈ words, ∀ c ∈ w, c.isAlphanum = true) (hfront : front ≠ [])
    (h : words.flatten = front ++ rest) (hrest : rest ≠ []) :
    (∃ s t, Text.join ['-'] words = s ++ '-' :: t ∧ s.filter Char.isAlphanum = front)
      ↔ Breaks words front := by
  have hdash : ∀ w ∈ words, '-' ∉ w := fun w hw hmem =>
    Bool.false_ne_true (hwords w hw '-' hmem)
  have hflatten {s : Text} (hs : ∀ c ∈ s, c ∈ Text.join ['-'] words) :
      (Text.splitOn '-' s).flatten = s.filter Char.isAlphanum := by
    rw [Text.splitOn, Text.flatten_splitBy]
    refine List.filter_congr fun c hc => ?_
    rcases Text.mem_join (hs c hc) with hdash | ⟨w, hw, hmem⟩
    · rw [List.mem_singleton.mp hdash]
      rfl
    · have hne : c ≠ '-' := fun heq => hdash w hw (heq ▸ hmem)
      rw [hwords w hw c hmem, beq_false_of_ne hne]
      rfl
  constructor
  · rintro ⟨s, t, hjoin, hs⟩
    have hne : words ≠ [] := by
      rintro rfl
      cases s <;> cases hjoin
    have hpieces := Text.splitOn_join hne hdash
    have hcut : Text.splitOn '-' (s ++ '-' :: t) = Text.splitOn '-' s ++ Text.splitOn '-' t :=
      Text.splitBy_append_separator rfl s t
    rw [hjoin, hcut] at hpieces
    refine ⟨_, _, hpieces.symm, (hflatten fun c hc => ?_).trans hs⟩
    rw [hjoin]
    exact List.mem_append_left _ hc
  · rintro ⟨us, vs, rfl, rfl⟩
    have hus : us ≠ [] := by
      rintro rfl
      exact hfront rfl
    have hvs : vs ≠ [] := by
      rintro rfl
      rw [List.append_nil, List.self_eq_append_right] at h
      exact hrest h
    have hjoin : Text.join ['-'] (us ++ vs)
        = Text.join ['-'] us ++ '-' :: Text.join ['-'] vs := by
      rw [Text.join_append hus hvs, List.append_assoc]
      rfl
    refine ⟨Text.join ['-'] us, Text.join ['-'] vs, hjoin, ?_⟩
    rw [← hflatten fun c hc => hjoin ▸ List.mem_append_left _ hc,
      Text.splitOn_join hus fun w hw => hdash w (List.mem_append_left _ hw)]

end Breaks

/-! ## Words of a run of letters and digits -/

/-- Characters of ASCII. -/
def IsAscii (t : Text) : Prop := ∀ c ∈ t, c.toNat < 128

instance (t : Text) : Decidable (IsAscii t) := inferInstanceAs (Decidable (∀ c ∈ t, _))

/-- The case that is current behind a text. -/
def CaseRun.after (run : CaseRun) (t : Text) : CaseRun := t.foldl CaseRun.next run

/-- In the current case, the case changes in front of `d`, which `behind` follows: it is a
capital behind a small letter, or behind a capital and in front of a small letter. -/
def ChangesAt (run : CaseRun) (d : Char) (behind : Text) : Prop :=
  d.isUpper = true ∧ (run = .lower ∨ run = .upper ∧ ∃ e ∈ behind.head?, e.isLower = true)

section CaseWords

variable {run : CaseRun} {c d : Char} {a b : Text}

theorem CaseRun.next_ascii (hc : c.toNat < 128) (run : CaseRun) :
    run.next c = if c.isLower then .lower else if c.isUpper then .upper else run := by
  rw [next, Text.isLowercase_ascii hc, Text.isUppercase_ascii hc]

/-- A letter decides the case, whatever it was. -/
theorem CaseRun.next_of_isAlpha (hc : c.toNat < 128) (halpha : c.isAlpha = true)
    (run run' : CaseRun) : run.next c = run'.next c := by
  rw [next_ascii hc, next_ascii hc]
  rcases Text.isAlpha_iff.mp halpha with hupper | hlower
  · simp [hupper]
  · simp [hlower]

/-- The scan in plain terms, for ASCII. -/
theorem caseWords_cons_cons (h : IsAscii (c :: d :: b)) (run : CaseRun) :
    caseWords run (c :: d :: b)
      = if run.next c = .lower ∧ d.isUpper = true then [c] :: caseWords .none (d :: b)
        else if run = .upper ∧ c.isUpper = true ∧ d.isLower = true then
          [] :: consHead c (caseWords .none (d :: b))
        else consHead c (caseWords (run.next c) (d :: b)) := by
  unfold IsAscii at h
  rw [List.forall_mem_cons, List.forall_mem_cons] at h
  rw [caseWords, Text.isUppercase_ascii h.1, Text.isUppercase_ascii h.2.1,
    Text.isLowercase_ascii h.2.1]
  simp [and_assoc]

theorem consHead_ne_nil_cons (c : Char) (words more : List Text) :
    consHead c words ≠ [] :: more := by
  cases words <;> simp [consHead]

/-- The word that was being read ends at once in front of the last capital of several. -/
theorem caseWords_eq_nil_cons (h : IsAscii (c :: b)) :
    (∃ words, caseWords run (c :: b) = [] :: words)
      ↔ run = .upper ∧ c.isUpper = true ∧ ∃ e ∈ b.head?, e.isLower = true := by
  cases b with
  | nil => simp [caseWords]
  | cons d b =>
    rw [caseWords_cons_cons h]
    split
    · next hcut =>
      have hd : d.isLower = true → False := by
        intro hlower
        rw [Text.not_isUpper_of_isLower hlower] at hcut
        cases hcut.2
      simpa using fun _ _ => hd
    · split
      · next hcut => simpa using hcut
      · next hcut => simpa [consHead_ne_nil_cons] using hcut

theorem breaks_consHead_singleton {words : List Text} (hne : words ≠ []) :
    Breaks (consHead c words) [c] ↔ ∃ more, words = [] :: more := by
  obtain ⟨w, words, rfl⟩ := List.exists_cons_of_ne_nil hne
  constructor
  · rintro ⟨us, vs, heq, hflat⟩
    cases us with
    | nil => cases hflat
    | cons u us =>
      obtain ⟨rfl, -⟩ := List.cons.inj heq
      rw [List.flatten_cons, List.cons_append, List.cons.injEq, List.append_eq_nil_iff] at hflat
      exact ⟨words, by rw [hflat.2.1]⟩
  · rintro ⟨more, heq⟩
    obtain ⟨rfl, rfl⟩ := List.cons.inj heq
    exact ⟨[[c]], words, rfl, rfl⟩

theorem breaks_consHead_cons {words : List Text} (ha : a ≠ []) :
    Breaks (consHead c words) (c :: a) ↔ Breaks words a := by
  cases words with
  | nil =>
    constructor
    · rintro ⟨us, vs, heq, hflat⟩
      have hlength := congrArg List.length hflat
      rcases us with _ | ⟨u, _ | ⟨u', us⟩⟩
      · cases hflat
      · obtain ⟨rfl, -⟩ := List.cons.inj heq
        obtain ⟨-, rfl⟩ := List.cons.inj hflat
        exact absurd rfl ha
      · cases heq
    · rintro ⟨us, vs, heq, rfl⟩
      obtain ⟨rfl, -⟩ := List.append_eq_nil_iff.mp heq.symm
      exact absurd rfl ha
  | cons w words =>
    constructor
    · rintro ⟨us, vs, heq, hflat⟩
      cases us with
      | nil => cases hflat
      | cons u us =>
        obtain ⟨rfl, rfl⟩ := List.cons.inj heq
        exact ⟨w :: us, vs, rfl, (List.cons.inj hflat).2⟩
    · rintro ⟨us, vs, heq, rfl⟩
      cases us with
      | nil => exact absurd rfl ha
      | cons u us =>
        obtain ⟨rfl, rfl⟩ := List.cons.inj heq
        exact ⟨(c :: w) :: us, vs, rfl, rfl⟩

theorem caseWords_ne_nil (run : CaseRun) (c : Char) (t : Text) : caseWords run (c :: t) ≠ [] := by
  intro h
  have hflat := flatten_caseWords run (c :: t)
  rw [h] at hflat
  cases hflat

/-- The scan cuts exactly where the case changes. -/
theorem breaks_caseWords (h : IsAscii (a ++ d :: b)) (ha : a ≠ []) (run : CaseRun) :
    Breaks (caseWords run (a ++ d :: b)) a ↔ ChangesAt (run.after a) d b := by
  induction a generalizing run with
  | nil => exact absurd rfl ha
  | cons c a ih =>
    have hrest : IsAscii (a ++ d :: b) := fun x hx => h x (.tail c hx)
    cases a with
    | nil =>
      rw [List.singleton_append] at h ⊢
      rw [caseWords_cons_cons h]
      change _ ↔ ChangesAt (run.next c) d b
      split
      · next hcut => exact iff_of_true ⟨[[c]], _, rfl, rfl⟩ ⟨hcut.2, .inl hcut.1⟩
      · next hstay =>
        split
        · next hcut =>
          refine iff_of_false ?_ fun hchange => ?_
          · rw [← List.nil_append [c], breaks_cons_of_ne_nil (List.cons_ne_nil c []),
              breaks_consHead_singleton (caseWords_ne_nil .none d b), caseWords_eq_nil_cons hrest]
            exact fun hnil => nomatch hnil.1
          · exact Bool.false_ne_true ((Text.not_isUpper_of_isLower hcut.2.2).symm.trans hchange.1)
        · rw [breaks_consHead_singleton (caseWords_ne_nil _ d b), caseWords_eq_nil_cons hrest]
          exact ⟨fun ⟨hrun, hd, he⟩ => ⟨hd, .inr ⟨hrun, he⟩⟩,
            fun ⟨hd, hor⟩ => (hor.resolve_left (hstay ⟨·, hd⟩)).imp_right (⟨hd, ·⟩)⟩
    | cons e a =>
      have ih := ih hrest (List.cons_ne_nil e a)
      -- behind a cut the current case is forgotten, but the letter there decides it anew
      have hforget (halpha : e.isAlpha = true) :
          CaseRun.none.after (e :: a) = run.after (c :: e :: a) :=
        congrArg (CaseRun.after · a)
          (CaseRun.next_of_isAlpha (hrest e (.head _)) halpha .none (run.next c))
      rw [List.cons_append, List.cons_append] at h ⊢
      rw [caseWords_cons_cons h]
      split
      · next hcut =>
        rw [← hforget (Text.isAlpha_iff.mpr (.inl hcut.2)), ← ih .none]
        exact breaks_cons_of_ne_nil (List.cons_ne_nil e a) [c] _
      · split
        · next hcut =>
          rw [← hforget (Text.isAlpha_iff.mpr (.inr hcut.2.2)), ← ih .none,
            ← List.cons_append, ← breaks_consHead_cons (c := c) (List.cons_ne_nil e a)]
          exact breaks_cons_of_ne_nil (List.cons_ne_nil c _) [] _
        · rw [breaks_consHead_cons (List.cons_ne_nil e a)]
          exact ih (run.next c)

/-- Only the first word can be empty, and only where a word of capitals is being read. -/
theorem ne_nil_of_mem_caseWords {w : Text} {words : List Text} {t : Text}
    (h : caseWords run t = w :: words) : (w = [] → run = .upper) ∧ ∀ v ∈ words, v ≠ [] := by
  fun_induction caseWords run t generalizing w words with
  | case1 => cases h
  | case2 run c =>
    cases h
    exact ⟨fun hnil => absurd hnil (List.cons_ne_nil c []), fun v hv => absurd hv List.not_mem_nil⟩
  | case3 run c d r hcut ih =>
    cases h
    obtain ⟨v, more, hwords⟩ := List.exists_cons_of_ne_nil (caseWords_ne_nil .none d r)
    refine ⟨fun hnil => absurd hnil (List.cons_ne_nil c []), fun u hu => ?_⟩
    rw [hwords, List.mem_cons] at hu
    rcases hu with rfl | hmem
    · intro hnil
      cases (ih hwords).1 hnil
    · exact (ih hwords).2 u hmem
  | case4 run c d r hstay hcut ih =>
    cases h
    obtain ⟨v, more, hwords⟩ := List.exists_cons_of_ne_nil (caseWords_ne_nil .none d r)
    refine ⟨fun _ => ?_, fun u hu => ?_⟩
    · rw [Bool.and_eq_true, Bool.and_eq_true, decide_eq_true_iff] at hcut
      exact hcut.1.1
    · rw [hwords, consHead, List.mem_cons] at hu
      rcases hu with rfl | hmem
      · exact List.cons_ne_nil c v
      · exact (ih hwords).2 u hmem
  | case5 run c d r hstay hkeep ih =>
    obtain ⟨v, more, hwords⟩ := List.exists_cons_of_ne_nil (caseWords_ne_nil (run.next c) d r)
    rw [hwords] at h
    cases h
    exact ⟨fun hnil => absurd hnil (List.cons_ne_nil c v), (ih hwords).2⟩

end CaseWords

/-! ## Words of a name -/

/-- The words of a text, where a word is made of characters in `p`. -/
def wordsOf (p : Char → Bool) (t : Text) : List Text :=
  (Text.splitBy (!p ·) t).flatMap (caseWords .none)

section WordsOf

variable {p : Char → Bool} {c : Char} {s t : Text}

theorem nameWords_ascii (h : IsAscii t) : nameWords t = wordsOf Char.isAlphanum t := by
  rw [nameWords, Text.splitBy_congr fun c hc => by rw [Text.isAlphanumeric_ascii (h c hc)]]
  rfl

theorem wordsOf_append_cons (hc : p c = false) (s t : Text) :
    wordsOf p (s ++ c :: t) = wordsOf p s ++ wordsOf p t := by
  rw [wordsOf, Text.splitBy_append_separator (by rw [hc]; rfl), List.flatMap_append]
  rfl

/-- Words do not reach over the end of a text that ends with none. -/
theorem wordsOf_append_of_getLast? (h : ∀ c ∈ s.getLast?, p c = false) (t : Text) :
    wordsOf p (s ++ t) = wordsOf p s ++ wordsOf p t := by
  cases s using List.reverseRecOn with
  | nil => rfl
  | append_singleton s c =>
    have hc : p c = false := h c List.getLast?_concat
    rw [List.append_assoc, List.singleton_append, wordsOf_append_cons hc, wordsOf_append_cons hc]
    change _ = wordsOf p s ++ [] ++ wordsOf p t
    rw [List.append_nil]

theorem wordsOf_append_of_head? (h : ∀ c ∈ t.head?, p c = false) (s : Text) :
    wordsOf p (s ++ t) = wordsOf p s ++ wordsOf p t := by
  cases t with
  | nil => exact (congrArg _ (List.append_nil s)).trans (List.append_nil _).symm
  | cons c t =>
    have hc : p c = false := h c rfl
    rw [wordsOf_append_cons hc, ← List.nil_append (c :: t), wordsOf_append_cons hc]
    rfl

theorem wordsOf_of_forall (h : ∀ c ∈ t, p c = true) : wordsOf p t = caseWords .none t := by
  rw [wordsOf, Text.splitBy_of_forall fun c hc => by rw [h c hc]; rfl, List.flatMap_singleton]

theorem flatten_wordsOf (p : Char → Bool) (t : Text) : (wordsOf p t).flatten = t.filter p := by
  have hwords : (List.flatten ∘ caseWords .none) = id := funext (flatten_caseWords .none)
  rw [wordsOf, List.flatMap_def, List.flatten_flatten, List.map_map, hwords, List.map_id,
    Text.flatten_splitBy]
  simp

theorem ne_nil_of_mem_wordsOf {w : Text} (h : w ∈ wordsOf p t) : w ≠ [] := by
  obtain ⟨run, -, hw⟩ := List.mem_flatMap.mp h
  obtain ⟨v, more, hwords⟩ := List.exists_cons_of_ne_nil (List.ne_nil_of_mem hw)
  have hne := ne_nil_of_mem_caseWords hwords
  rw [hwords, List.mem_cons] at hw
  rcases hw with rfl | hmem
  · intro hnil
    cases hne.1 hnil
  · exact hne.2 w hmem

/-- Words break where other characters stand between them. -/
theorem breaks_wordsOf_of_gap {front gap behind : Text} {d : Char} (hne : gap ≠ [])
    (hgap : ∀ g ∈ gap, p g = false) :
    Breaks (wordsOf p (front ++ (gap ++ d :: behind))) (front.filter p) := by
  obtain ⟨g, gap, rfl⟩ := List.exists_cons_of_ne_nil hne
  rw [List.cons_append, wordsOf_append_cons (hgap g (.head _))]
  exact ⟨_, _, rfl, flatten_wordsOf p front⟩

/-- Between two letters or digits that stand side by side, words break where the case changes. -/
theorem breaks_wordsOf_iff {front behind : Text} {d : Char} (h : IsAscii (front ++ d :: behind))
    (hfront : front.rtakeWhile p ≠ []) (hd : p d = true) :
    Breaks (wordsOf p (front ++ d :: behind)) (front.filter p)
      ↔ ChangesAt (CaseRun.none.after (front.rtakeWhile p)) d (behind.takeWhile p) := by
  have hback : ∀ c ∈ (front.rdropWhile p).getLast?, p c = false := by
    intro c hc
    obtain ⟨hne, rfl⟩ := List.mem_getLast?_eq_getLast hc
    exact Bool.eq_false_iff.mpr (List.rdropWhile_last_not p front hne)
  have hahead : ∀ c ∈ (behind.dropWhile p).head?, p c = false := by
    intro c hc
    have hnot := List.head?_dropWhile_not p behind
    rw [hc] at hnot
    exact hnot
  -- the run of word characters around the seam, and what is around the run
  have hrun : front ++ d :: behind = front.rdropWhile p
      ++ ((front.rtakeWhile p ++ d :: behind.takeWhile p) ++ behind.dropWhile p) := by
    rw [List.append_assoc, List.cons_append, List.takeWhile_append_dropWhile, ← List.append_assoc,
      List.rdropWhile_append_rtakeWhile]
  have hmem : ∀ c ∈ front.rtakeWhile p ++ d :: behind.takeWhile p, p c = true := by
    intro c hc
    rw [List.mem_append, List.mem_cons] at hc
    rcases hc with hc | rfl | hc
    · exact List.mem_rtakeWhile_imp hc
    · exact hd
    · exact List.mem_takeWhile_imp hc
  have hfilter : front.filter p
      = (wordsOf p (front.rdropWhile p)).flatten ++ front.rtakeWhile p := by
    have hkept : (front.rtakeWhile p).filter p = front.rtakeWhile p :=
      List.filter_eq_self.mpr fun c hc => List.mem_rtakeWhile_imp hc
    conv_lhs => rw [← List.rdropWhile_append_rtakeWhile (p := p) (l := front)]
    rw [List.filter_append, flatten_wordsOf, hkept]
  have hascii : IsAscii (front.rtakeWhile p ++ d :: behind.takeWhile p) := by
    intro c hc
    refine h c ?_
    rw [hrun]
    exact List.mem_append_right _ (List.mem_append_left _ hc)
  rw [hfilter, hrun, wordsOf_append_of_getLast? hback, wordsOf_append_of_head? hahead,
    breaks_append_left hfront, wordsOf_of_forall hmem,
    breaks_append_right (flatten_caseWords _ _) (List.cons_ne_nil _ _),
    breaks_caseWords hascii hfront]

end WordsOf

/-! ## Where the case changes -/

/-- The last letter of the letters and digits that end a text. -/
def lastLetter? (front : Text) : Option Char :=
  ((front.rtakeWhile Char.isAlphanum).filter Char.isAlpha).getLast?

/-- Between two parts of a name, in front of the character `d`, the case changes: `d` is a
capital, and behind a small letter, or behind a capital and in front of a small letter.  Digits
in front of `d` are passed over. -/
def ChangesCase (front : Text) (d : Char) (behind : Text) : Prop :=
  d.isUpper = true ∧ ∃ c ∈ lastLetter? front,
    c.isLower = true ∨ c.isUpper = true ∧ ∃ e ∈ behind.head?, e.isLower = true

instance (front : Text) (d : Char) (behind : Text) : Decidable (ChangesCase front d behind) :=
  inferInstanceAs (Decidable (_ ∧ _))

section ChangesCase

variable {t : Text}

/-- The current case is that of the last letter. -/
theorem CaseRun.after_ascii (h : IsAscii t) :
    CaseRun.none.after t = match (t.filter Char.isAlpha).getLast? with
      | Option.none => .none
      | some c => if c.isLower then .lower else .upper := by
  induction t using List.reverseRecOn with
  | nil => rfl
  | append_singleton t c ih =>
    have hc : c.toNat < 128 := h c (List.mem_append_right t (.head _))
    have hstep : CaseRun.none.after (t ++ [c]) = (CaseRun.none.after t).next c :=
      List.foldl_concat ..
    rw [hstep, CaseRun.next_ascii hc, List.filter_append]
    by_cases halpha : c.isAlpha = true
    · rw [List.filter_cons_of_pos halpha, List.filter_nil, List.getLast?_concat]
      rcases Text.isAlpha_iff.mp halpha with hupper | hlower
      · simp [hupper]
      · simp [hlower]
    · have hcase := mt Text.isAlpha_iff.mpr halpha
      rw [not_or] at hcase
      rw [if_neg hcase.2, if_neg hcase.1, List.filter_cons_of_neg halpha, List.filter_nil,
        List.append_nil]
      exact ih fun e he => h e (List.mem_append_left _ he)

theorem changesAt_iff {front behind : Text} (h : IsAscii front) (d : Char) :
    ChangesAt (CaseRun.none.after (front.rtakeWhile Char.isAlphanum)) d
        (behind.takeWhile Char.isAlphanum)
      ↔ ChangesCase front d behind := by
  have hrun : IsAscii (front.rtakeWhile Char.isAlphanum) := fun c hc =>
    h c ((List.rtakeWhile_suffix _ front).subset hc)
  have hahead : (∃ e ∈ (behind.takeWhile Char.isAlphanum).head?, e.isLower = true)
      ↔ ∃ e ∈ behind.head?, e.isLower = true := by
    have halnum {e : Char} (he : e.isLower = true) : e.isAlphanum = true := by
      rw [Char.isAlphanum, Text.isAlpha_iff.mpr (.inr he), Bool.true_or]
    rw [List.head?_takeWhile]
    exact exists_congr fun e => and_congr_left fun he =>
      Option.mem_filter_iff.trans (and_iff_left (halnum he))
  have hletter : ∀ c ∈ lastLetter? front, c.isUpper = true ∨ c.isLower = true := fun c hc =>
    Text.isAlpha_iff.mp (List.mem_filter.mp (List.mem_of_getLast? hc)).2
  have hcase : CaseRun.none.after (front.rtakeWhile Char.isAlphanum) = match lastLetter? front with
      | none => CaseRun.none
      | some c => if c.isLower then .lower else .upper := CaseRun.after_ascii hrun
  unfold ChangesAt ChangesCase
  rw [hahead, hcase]
  cases hlast : lastLetter? front with
  | none => simp
  | some c =>
    rcases hletter c hlast with hupper | hlower
    · have hlower : c.isLower = false := by
        rw [Bool.eq_false_iff]
        exact fun hlower =>
          Bool.false_ne_true ((Text.not_isUpper_of_isLower hlower).symm.trans hupper)
      simp [hupper, hlower]
    · simp [hlower, Text.not_isUpper_of_isLower hlower]

end ChangesCase

/-! ## Routes -/

section Route

variable {name w : Text} {c : Char}

theorem isLower_or_isDigit_toLower (h : c.isAlphanum = true) :
    c.toLower.isLower = true ∨ c.toLower.isDigit = true := by
  rw [Text.isLower_toLower]
  rw [Char.isAlphanum, Bool.or_eq_true] at h
  refine h.imp_right fun hdigit => ?_
  have hascii := Text.toNat_lt_of_isLower_or_isDigit (.inr hdigit)
  have hsame : [c.toLower] = [c] :=
    (Text.lowerOf_ascii hascii).symm.trans (Text.lowerOf_eq_singleton (.inr hdigit))
  rw [List.singleton_inj.mp hsame, hdigit]

theorem lowerWord_ascii (h : IsAscii w) : lowerWord w = w.map Char.toLower := by
  have hlower : ∀ c ∈ w, Text.lowerOf c = [c.toLower] := fun c hc => Text.lowerOf_ascii (h c hc)
  fun_induction lowerWord w with
  | case1 => rfl
  | case2 => exact absurd (h _ (.head _)) (by decide)
  | case3 c _ => exact hlower c (.head _)
  | case4 c d r ih =>
    unfold IsAscii at h
    rw [List.forall_mem_cons] at h hlower
    rw [hlower.1, ih h.2 hlower.2]
    rfl

/-- The words of the route of a name. -/
def routeWords (name : Text) : List Text :=
  (wordsOf Char.isAlphanum name).map (List.map Char.toLower)

theorem route_ascii (h : IsAscii name) : route name = '/' :: Text.join ['-'] (routeWords name) := by
  have hlower : ∀ w ∈ wordsOf Char.isAlphanum name, lowerWord w = w.map Char.toLower := by
    intro w hw
    refine lowerWord_ascii fun c hc => h c ?_
    have hmem : c ∈ (wordsOf Char.isAlphanum name).flatten := List.mem_flatten.mpr ⟨w, hw, hc⟩
    rw [flatten_wordsOf] at hmem
    exact List.mem_of_mem_filter hmem
  rw [route, kebab, nameWords_ascii h, List.map_congr_left hlower]
  rfl

theorem flatten_routeWords (name : Text) :
    (routeWords name).flatten = (name.filter Char.isAlphanum).map Char.toLower := by
  rw [routeWords, ← List.map_flatten, flatten_wordsOf]

theorem isLower_or_isDigit_of_mem_routeWords (hw : w ∈ routeWords name) :
    w ≠ [] ∧ ∀ c ∈ w, c.isLower = true ∨ c.isDigit = true := by
  obtain ⟨v, hv, rfl⟩ := List.mem_map.mp hw
  refine ⟨mt List.map_eq_nil_iff.mp (ne_nil_of_mem_wordsOf hv), fun c hc => ?_⟩
  obtain ⟨e, he, rfl⟩ := List.mem_map.mp hc
  have hmem : e ∈ (wordsOf Char.isAlphanum name).flatten := List.mem_flatten.mpr ⟨v, hv, he⟩
  rw [flatten_wordsOf] at hmem
  exact isLower_or_isDigit_toLower (List.mem_filter.mp hmem).2

/-- A dash of a route, behind the letters and digits of the front part of a name. -/
def DashBehind (route front : Text) : Prop :=
  ∃ s t, route = s ++ '-' :: t
    ∧ s.filter Char.isAlphanum = (front.filter Char.isAlphanum).map Char.toLower

theorem dashBehind_slash_iff {words : Text} {front : Text} :
    DashBehind ('/' :: words) front
      ↔ ∃ s t, words = s ++ '-' :: t
        ∧ s.filter Char.isAlphanum = (front.filter Char.isAlphanum).map Char.toLower := by
  constructor
  · rintro ⟨s, t, heq, hs⟩
    cases s with
    | nil => exact absurd (List.cons.inj heq).1 (by decide)
    | cons e s =>
      obtain ⟨rfl, rfl⟩ := List.cons.inj heq
      exact ⟨s, t, rfl, hs⟩
  · rintro ⟨s, t, rfl, hs⟩
    exact ⟨'/' :: s, t, rfl, hs⟩

/-- The dashes of a route stand where the words of the name break. -/
theorem dashBehind_route_iff {front behind : Text} (h : IsAscii (front ++ behind))
    (hfront : front.filter Char.isAlphanum ≠ []) (hbehind : behind.filter Char.isAlphanum ≠ []) :
    DashBehind (route (front ++ behind)) front
      ↔ Breaks (wordsOf Char.isAlphanum (front ++ behind)) (front.filter Char.isAlphanum) := by
  have hwords : ∀ w ∈ routeWords (front ++ behind), ∀ c ∈ w, c.isAlphanum = true := by
    intro w hw c hc
    rw [Char.isAlphanum, Bool.or_eq_true, Text.isAlpha_iff]
    exact ((isLower_or_isDigit_of_mem_routeWords hw).2 c hc).imp_left .inr
  have hflat := flatten_wordsOf Char.isAlphanum (front ++ behind)
  have hflatRoute := flatten_routeWords (front ++ behind)
  rw [List.filter_append] at hflat hflatRoute
  rw [List.map_append] at hflatRoute
  rw [route_ascii h, dashBehind_slash_iff,
    dash_iff_breaks hwords (mt List.map_eq_nil_iff.mp hfront) hflatRoute
      (mt List.map_eq_nil_iff.mp hbehind)]
  exact breaks_map hflat

/-- The route of a name in ASCII is a slash and words of small letters and digits with single
dashes between them.  They hold the letters and digits of the name in order, in lower case.
Between two of these, a dash stands exactly where the name has other characters, or where the
case changes. -/
theorem route_eq_join (name : Text) (h : IsAscii name) :
    ∃ words : List Text, route name = '/' :: Text.join ['-'] words
      ∧ (∀ w ∈ words, w ≠ [] ∧ ∀ c ∈ w, c.isLower = true ∨ c.isDigit = true)
      ∧ words.flatten = (name.filter Char.isAlphanum).map Char.toLower
      ∧ ∀ (before gap behind : Text) (c d : Char), name = before ++ c :: (gap ++ d :: behind) →
        c.isAlphanum = true → d.isAlphanum = true → (∀ g ∈ gap, g.isAlphanum = false) →
        (DashBehind (route name) (before ++ [c]) ↔ gap ≠ [] ∨ ChangesCase (before ++ [c]) d behind)
    := by
  refine ⟨routeWords name, route_ascii h, fun w => isLower_or_isDigit_of_mem_routeWords,
    flatten_routeWords name, ?_⟩
  intro before gap behind c d hname hc hd hgap
  have hsplit : name = (before ++ [c]) ++ (gap ++ d :: behind) := by
    rw [hname, List.append_assoc, List.singleton_append]
  subst hsplit
  have hfront : (before ++ [c]).filter Char.isAlphanum ≠ [] :=
    List.ne_nil_of_mem (List.mem_filter.mpr ⟨List.mem_append_right _ (.head _), hc⟩)
  have hbehind : (gap ++ d :: behind).filter Char.isAlphanum ≠ [] :=
    List.ne_nil_of_mem (List.mem_filter.mpr ⟨List.mem_append_right _ (.head _), hd⟩)
  rw [dashBehind_route_iff h hfront hbehind]
  by_cases hne : gap = []
  · subst hne
    have hrun : (before ++ [c]).rtakeWhile Char.isAlphanum ≠ [] := by
      rw [List.rtakeWhile_concat_pos _ _ _ hc]
      exact List.append_ne_nil_of_right_ne_nil _ (List.cons_ne_nil c [])
    rw [List.nil_append, breaks_wordsOf_iff h hrun hd,
      changesAt_iff fun e he => h e (List.mem_append_left _ he)]
    exact (or_iff_right (not_not_intro rfl)).symm
  · exact iff_of_true (breaks_wordsOf_of_gap hne hgap) (.inl hne)

/-- Dashes in front of the last of several capitals and in place of two underscores, and none
between the capitals. -/
theorem route_eq_join_capitals :
    let name := "userHTTPServer__v2Beta".toList
    IsAscii name ∧ route name = "/user-http-server-v2-beta".toList
      ∧ DashBehind (route name) "userHTTP".toList
      ∧ DashBehind (route name) "userHTTPServer".toList
      ∧ ¬ DashBehind (route name) "userHT".toList := by
  have hascii : IsAscii "userHTTPServer__v2Beta".toList := by decide
  obtain ⟨words, -, -, -, hdash⟩ := route_eq_join _ hascii
  refine ⟨hascii, by decide +kernel, ?_, ?_, fun hinside => ?_⟩
  · exact (hdash "userHTT".toList [] "erver__v2Beta".toList 'P' 'S' rfl rfl rfl nofun).mpr
      (by decide)
  · exact (hdash "userHTTPServe".toList "__".toList "2Beta".toList 'r' 'v' rfl rfl rfl
      (by decide)).mpr (by decide)
  · exact absurd ((hdash "userH".toList [] "PServer__v2Beta".toList 'T' 'T' rfl rfl rfl nofun).mp
      hinside) (by decide)

end Route

end Naming

end TableScaffold
