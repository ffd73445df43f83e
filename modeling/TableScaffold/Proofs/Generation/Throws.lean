import TableScaffold.Proofs.Generation.Report
import TableScaffold.Proofs.Generation.WriteFile
import TableScaffold.Template.Source

set_option autoImplicit false

/-!
# What a run can fail with

An action fails with certain errors only if its parts do, so what a run can fail with is put
together from its four kinds of steps: a table is refused, a template is rendered, a file is
written, or the schema has a fault (`Config.throws_run_of_steps`).
-/

namespace TableScaffold

namespace Procedure

variable {σ α β : Type} {P : ScaffoldError → Prop}

/-- An action fails with certain errors only. -/
def Throws (P : ScaffoldError → Prop) (x : Procedure σ α) : Prop :=
  ∀ s e s', exec x s = (.error e, s') → P e

theorem throws_pure (a : α) : Throws P (pure a : Procedure σ α) := fun _ _ _ h => by cases h

theorem throws_throw {e : ScaffoldError} (h : P e) : Throws P (throw e : Procedure σ α) := by
  intro s e' s' he
  cases he
  exact h

theorem throws_lift (x : StateM σ α) : Throws P (liftM x : Procedure σ α) :=
  fun _ _ _ h => by cases h

theorem Throws.bind {x : Procedure σ α} {f : α → Procedure σ β} (h : Throws P x)
    (hf : ∀ a, Throws P (f a)) : Throws P (x >>= f) := by
  intro s e s' he
  rcases exec_bind_eq_error.mp he with hx | ⟨a, s₁, -, hfa⟩
  · exact h s e s' hx
  · exact hf a s₁ e s' hfa

theorem throws_foldlM {f : β → α → Procedure σ β} (h : ∀ b a, Throws P (f b a)) (as : List α)
    (b : β) : Throws P (as.foldlM f b) := by
  intro s e s' he
  obtain ⟨_, a, _, b₁, s₁, -, -, ha⟩ := exec_foldlM_eq_error he
  exact h b₁ a s₁ e s' ha

theorem throws_mapM {f : α → Procedure σ β} (h : ∀ a, Throws P (f a)) (as : List α) :
    Throws P (as.mapM f) := by
  intro s e s' he
  obtain ⟨_, a, _, _, s₁, -, -, ha⟩ := exec_mapM_eq_error he
  exact h a s₁ e s' ha

theorem throws_forM {f : α → Procedure σ PUnit} (h : ∀ a, Throws P (f a)) (as : List α) :
    Throws P (as.forM f) := by
  intro s e s' he
  obtain ⟨_, a, _, s₁, -, -, ha⟩ := exec_forM_eq_error he
  exact h a s₁ e s' ha

end Procedure

open Procedure

namespace Config

variable {P : ScaffoldError → Prop}

theorem throws_orFail {σ : Type} (hwrite : ∀ p fault, P (.write p fault)) (p : Path)
    (x : StateM σ (Except FileFault Unit)) : Throws P (orFail p x) := by
  refine .bind (throws_lift _) fun result => ?_
  split
  · exact throws_throw (hwrite p _)
  · exact throws_pure _

variable {σ : Type} [FileAccess (StateM σ)] (c : Config)

theorem throws_render [Template.Engine] (hname : ∀ name, P (.unknownTemplate name))
    (hfile : ∀ p fault, P (.unreadableTemplate p fault)) (htemplate : ∀ f, P (.template f))
    (source : TemplateSource) (name : Text) (slots : Slots) :
    Throws P (source.render name slots : Procedure σ Text) := by
  refine .bind ?_ fun template => ?_
  · unfold TemplateSource.load
    split
    · split
      · exact throws_pure _
      · exact throws_throw (hname name)
    · refine .bind (throws_lift _) fun result => ?_
      split
      · exact throws_pure _
      · exact throws_throw (hfile _ _)
  · split
    · exact throws_pure _
    · exact throws_throw (htemplate _)

theorem throws_writeFile [FormatAccess (StateM σ)] (hwrite : ∀ p fault, P (.write p fault))
    (p : Path) (t : Text) :
    Throws P (c.writeFile p t : Procedure σ Unit) := by
  cases hdry : c.dryRun with
  | true =>
    rw [writeFile_of_dryRun hdry]
    exact throws_pure ()
  | false =>
    rw [writeFile_eq hdry]
    refine .bind ?_ fun _ => .bind (throws_orFail hwrite p _) fun _ => ?_
    · unfold ensureAbove
      split
      · exact throws_orFail hwrite _ _
      · exact throws_pure ()
    · unfold formatWritten
      split
      · exact throws_lift _
      · exact throws_pure ()

/-- The templates of all kinds fail with certain errors only. -/
def TemplatesThrow [Template.Engine] (σ : Type) [FileAccess (StateM σ)]
    (P : ScaffoldError → Prop) : Prop :=
  ∀ (k : ArtifactKind) (t : Table),
    Throws P (c.templateSource.render k.fileTemplate (k.slots t c) : Procedure σ Text)
      ∧ Throws P (c.templateSource.render k.snippetTemplate (k.slots t c) : Procedure σ Text)

variable [FormatAccess (StateM σ)] [Template.Engine] {c}

theorem throws_emitTable (hvalidation : ∀ fault, P (.validation fault))
    (hwrite : ∀ p fault, P (.write p fault)) (htemplates : c.TemplatesThrow σ P)
    (bs : List Combined) (t : Table) :
    Throws P (c.emitTable bs t : Procedure σ (List Combined)) := by
  refine .bind ?_ fun _ => throws_mapM (fun b => ?_) bs
  · unfold checkCollision
    split
    · exact throws_throw (hvalidation _)
    · exact throws_pure ()
  · obtain ⟨hfile, hsnippet⟩ := htemplates b.kind t
    refine .bind hfile fun text => ?_
    refine .bind (throws_writeFile c hwrite _ _) fun _ => ?_
    exact .bind hsnippet fun snippet => throws_pure _

/-- A run fails as its steps do, and with a fault of the schema only if the schema has it. -/
theorem throws_run_of_steps (hvalidation : ∀ fault, P (.validation fault))
    (hwrite : ∀ p fault, P (.write p fault)) (htemplates : c.TemplatesThrow σ P) {sql : Text}
    (hschema : ∀ fault, (Schema.read sql).failure = some fault → P (.schema fault)) :
    Throws P (c.run sql : Procedure σ Report) := by
  rw [run_eq_emit]
  unfold emit
  refine .bind (throws_foldlM (throws_emitTable hvalidation hwrite htemplates) _ _) fun bs => ?_
  cases hfailure : (Schema.read sql).failure with
  | some fault => exact throws_throw (hschema fault hfailure)
  | none =>
    refine Throws.bind (throws_forM (fun b => ?_) bs) fun _ => throws_pure _
    exact throws_writeFile c hwrite _ _

end Config

end TableScaffold
