import TableScaffold.Proofs.Files.Growth
import TableScaffold.Proofs.Files.Journal

set_option autoImplicit false

/-!
# Writing files

An output is written with the directories above it, and is then given to the
formatter if it asks for that; what its file holds in the end is `Output.bytes`.  After
a sequence of writes a file holds what was written last where its path leads
(`WroteAll.readBytes`), and nothing else has changed but new directories
(`WroteAll.others`).
-/

namespace TableScaffold

/-- A file with the text that is written to it. -/
structure Output where
  path : Path
  text : Text
  /-- whether the file is given to the formatter once it is written -/
  formatted : Bool
  deriving DecidableEq, Repr

/-- A file tells its text. -/
theorem FileAccess.bytesOfText_injective : Function.Injective bytesOfText := by
  intro t t' h
  unfold bytesOfText at h
  exact String.ofList_injective (String.toByteArray_inj.mp h)

namespace Output

/-- An output as a journal records it. -/
def record (o : Output) : Path × ByteArray := (o.path, FileAccess.bytesOfText o.text)

/-- What the file of an output holds in the end: its text, or what the formatter makes of
it. -/
def bytes [GoFormatter] (o : Output) : ByteArray :=
  let written := FileAccess.bytesOfText o.text
  if o.formatted then (GoFormatter.format? o.path written).getD written else written

theorem bytes_of_not_formatted [GoFormatter] {o : Output} (h : o.formatted = false) :
    o.bytes = FileAccess.bytesOfText o.text := by
  rw [bytes, h, if_neg Bool.false_ne_true]

end Output

namespace Workspace

/-- The workspace with the directories above a path, as far as they can be made. -/
def makeAbove (w : Workspace) (p : Path) : Workspace :=
  match p.parent? with
  | some dir => ((FileAccess.makeDirectories dir : StateM Workspace (Except FileFault Unit)).run w).2
  | none => w

theorem makeAbove_made (w : Workspace) (p : Path) : Made w (w.makeAbove p) := by
  unfold makeAbove
  split
  · exact addsDirectories_makeDirectories _ w
  · exact .none w

theorem makeAbove_extends (w : Workspace) (p : Path) :
    Extends (fun _ => False) w (w.makeAbove p) := (makeAbove_made w p).extends

variable [GoFormatter]

/-- The workspace with a file and the directories above it, as far as they can be made. -/
def write (w : Workspace) (o : Output) : Workspace :=
  match (w.makeAbove o.path).writeBytes o.path (FileAccess.bytesOfText o.text) with
  | .ok w' => if o.formatted then w'.formatFile o.path else w'
  | .error _ => w.makeAbove o.path

theorem write_of_ok {w w' : Workspace} {o : Output}
    (h : (w.makeAbove o.path).writeBytes o.path (FileAccess.bytesOfText o.text) = .ok w') :
    w.write o = if o.formatted then w'.formatFile o.path else w' := by
  rw [write, h]

/-- A file that can be written holds what the formatter leaves, if it is formatted. -/
theorem write_eq_put {w : Workspace} {o : Output} {place : Place}
    (hplace : (w.makeAbove o.path).resolve o.path = .ok place)
    (hne : (w.makeAbove o.path).entryAt place ≠ some .directory) :
    w.write o = (w.makeAbove o.path).put place (.file o.bytes) := by
  rw [write_of_ok (writeBytes_eq_ok.mpr ⟨place, hplace, hne, rfl⟩), Output.bytes]
  split
  · exact formatFile_put hplace hne _
  · rfl

/-- What a write does that succeeds: the file is where its path leads, and nothing is
taken away. -/
structure Wrote (o : Output) (place : Place) (w w' : Workspace) : Prop where
  eq_write : w' = w.write o
  resolve : w'.resolve o.path = .ok place
  entryAt : w'.entryAt place = some (.file o.bytes)
  others : Extends (· = place) w w'

theorem exists_wrote {w w' : Workspace} {o : Output}
    (h : (w.makeAbove o.path).writeBytes o.path (FileAccess.bytesOfText o.text) = .ok w') :
    ∃ place, Wrote o place w (w.write o) := by
  obtain ⟨place, hplace, hne, -⟩ := writeBytes_eq_ok.mp h
  have hothers := put_extends hne o.bytes
  rw [write_eq_put hplace hne]
  refine ⟨place, (write_eq_put hplace hne).symm, hothers.resolve hplace, ?_, ?_⟩
  · rw [entryAt_put_of_ne_directory hne, if_pos rfl]
  · exact ((makeAbove_extends w o.path).mono fun _ => False.elim).trans hothers

/-- What a sequence of writes does that all succeed. -/
inductive WroteAll : List Output → Workspace → Workspace → Prop where
  | nil (w : Workspace) : WroteAll [] w w
  | cons {o : Output} {os : List Output} {place : Place} {w w₁ w₂ : Workspace} :
    Wrote o place w w₁ → WroteAll os w₁ w₂ → WroteAll (o :: os) w w₂

namespace WroteAll

variable {os os' : List Output} {w w₁ w₂ : Workspace}

theorem append (h : WroteAll os w w₁) (h' : WroteAll os' w₁ w₂) :
    WroteAll (os ++ os') w w₂ := by
  induction h with
  | nil => exact h'
  | cons ho _ ih => exact .cons ho (ih h')

theorem split (h : WroteAll (os ++ os') w w₂) : ∃ w₁, WroteAll os w w₁ ∧ WroteAll os' w₁ w₂ := by
  induction os generalizing w with
  | nil => exact ⟨w, .nil w, h⟩
  | cons o os ih =>
    cases h with
    | cons ho hos =>
      obtain ⟨w₁, h₁, h₂⟩ := ih hos
      exact ⟨w₁, .cons ho h₁, h₂⟩

/-- The writes leave the workspace in which they are applied in order. -/
theorem eq_foldl (h : WroteAll os w w₂) : w₂ = os.foldl write w := by
  induction h with
  | nil => rfl
  | cons ho _ ih => rw [List.foldl_cons, ← ho.eq_write, ih]

/-- Nothing changes but directories that are new and files that are written. -/
theorem others (h : WroteAll os w w₂) :
    Extends (fun place => ∃ o ∈ os, w₂.resolve o.path = .ok place) w w₂ := by
  induction h with
  | nil w => exact .refl w
  | cons ho _ ih =>
    refine (ho.others.mono ?_).trans (ih.mono ?_)
    · rintro _ rfl
      exact ⟨_, List.mem_cons_self, ih.resolve ho.resolve⟩
    · rintro place ⟨o', ho', hplace⟩
      exact ⟨o', List.mem_cons_of_mem _ ho', hplace⟩

/-- A path that was written leads to a file. -/
theorem resolve (h : WroteAll os w w₂) {o : Output} (ho : o ∈ os) :
    ∃ place, w₂.resolve o.path = .ok place := by
  induction h with
  | nil => cases ho
  | cons ho' hos ih =>
    cases ho with
    | head => exact ⟨_, hos.others.resolve ho'.resolve⟩
    | tail _ ho => exact ih ho

/-- A file holds what was written last where its path leads. -/
theorem readBytes {o : Output} (h : WroteAll (os ++ o :: os') w w₂)
    (hlast : ∀ o' ∈ os', w₂.resolve o'.path ≠ w₂.resolve o.path) :
    w₂.readBytes o.path = .ok o.bytes := by
  obtain ⟨w₁, -, h⟩ := h.split
  cases h with
  | cons ho hos =>
    have hplace := hos.others.resolve ho.resolve
    refine readBytes_eq_ok.mpr ⟨_, hplace, (hos.others.entryAt_file ?_).mpr ho.entryAt⟩
    rintro ⟨o', ho', heq⟩
    exact hlast o' ho' (heq.trans hplace.symm)

end WroteAll

end Workspace

namespace Journal

variable [GoFormatter]

/-- A journal after more writes, each of which succeeded. -/
structure Logged (os : List Output) (j j' : Journal) : Prop where
  writes : j'.writes = j.writes ++ os.map Output.record
  workspace : Workspace.WroteAll os j.workspace j'.workspace

theorem Logged.nil (j : Journal) : Logged [] j j := ⟨(List.append_nil _).symm, .nil _⟩

theorem Logged.append {os os' : List Output} {j j₁ j₂ : Journal} (h : Logged os j j₁)
    (h' : Logged os' j₁ j₂) : Logged (os ++ os') j j₂ where
  writes := by rw [h'.writes, h.writes, List.map_append, List.append_assoc]
  workspace := h.workspace.append h'.workspace

end Journal

end TableScaffold
