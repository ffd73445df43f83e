import TableScaffold.Proofs.Artifact.Builtin
import TableScaffold.Proofs.Generation.Throws
import TableScaffold.Standalone

set_option autoImplicit false

/-!
# Runs with built-in templates

A built-in template is a row of literal texts and slots, every slot has a value for every
table, and rendering puts the values in place (`builtin_renders`).  So a run without a
directory of templates never fails because of a template: only a fault of the schema, a
refused table or a file that cannot be written ends it (`Config.run_with_builtin_templates`).
-/

namespace TableScaffold

open Template Piece Procedure

/-! ## Rendering -/

namespace ArtifactKind

variable [Engine] (k : ArtifactKind) (t : Table) (c : Config)

/-- A template is filled in for a table: its pieces are read as they are meant, its slots
have values, and rendering leaves the literal texts and braces and puts in the values. -/
structure FillsIn (name : Text) (pieces : List Piece) : Prop where
  readable : IsReadable pieces
  found : Builtin.find? name = some (pieces.flatMap source)
  haveValues : ∀ n, slot n ∈ pieces → (k.slots t c).get? n.spelling = some (k.slotValue t c n)
  renders : Template.render name (pieces.flatMap source) (k.slots t c)
    = .ok (pieces.flatMap (value (k.slotValue t c)))

theorem fillsIn_of_find? {name : Text} {lines : List (List Piece)}
    (hfind : Builtin.find? name = some (sourceOfLines lines))
    (hreadable : IsReadable (ofLines lines))
    (hnames : ∀ n ∈ (ofLines lines).filterMap slotName?, n ∈ k.slotNames) :
    k.FillsIn t c name (ofLines lines) := by
  have hfeed : "\n".toList = ['\n'] := by decide
  have hvalues := k.haveValues_slots t c hnames
  have hsource : (ofLines lines).flatMap source = sourceOfLines lines := flatMap_ofLines hfeed lines
  have htext : (ofLines lines).flatMap (value (k.slotValue t c))
      = textOfLines (k.slotValue t c) lines := flatMap_ofLines hfeed lines
  constructor
  · exact hreadable
  · rw [hfind, hsource]
  · exact hvalues
  · rw [hsource, htext]
    exact render_sourceOfLines hreadable hvalues name

/-- The templates of every kind are filled in for every table. -/
theorem exists_fillsIn {name : Text} (hname : name = k.fileTemplate ∨ name = k.snippetTemplate) :
    ∃ pieces, k.FillsIn t c name pieces := by
  rcases hname with rfl | rfl
  · exact ⟨_, k.fillsIn_of_find? t c (Builtin.find?_fileTemplate k) (Builtin.isReadable_fileLines k)
      (Builtin.slotNames_fileLines k)⟩
  · exact ⟨_, k.fillsIn_of_find? t c (Builtin.find?_snippetTemplate k)
      (Builtin.isReadable_snippetLines k) (Builtin.slotNames_snippetLines k)⟩

variable {k t c}

/-- Rendering what is filled in is no effect. -/
theorem FillsIn.render_eq {m : Type → Type} [Monad m] [LawfulMonad m] [FileAccess m] {name : Text}
    {pieces : List Piece} (h : k.FillsIn t c name pieces) :
    (TemplateSource.builtin.render name (k.slots t c) : ExceptT ScaffoldError m Text)
      = pure (pieces.flatMap (value (k.slotValue t c))) := by
  unfold TemplateSource.render TemplateSource.load
  rw [h.found]
  dsimp only
  rw [pure_bind, h.renders]

end ArtifactKind

/-! ## Running -/

/-- An error that no template and no configuration is the cause of. -/
inductive ScaffoldError.IsPlain : ScaffoldError → Prop where
  | schema (error : SchemaError) : IsPlain (.schema error)
  | validation (fault : ValidationFault) : IsPlain (.validation fault)
  | write (path : Path) (fault : FileFault) : IsPlain (.write path fault)

namespace Config

section Runs

variable [Engine]

theorem templatesThrow_builtin {σ : Type} [FileAccess (StateM σ)] {c : Config}
    (h : c.templateDir = none) {P : ScaffoldError → Prop} : c.TemplatesThrow σ P := by
  have hrender (k : ArtifactKind) (t : Table) {name : Text}
      (hname : name = k.fileTemplate ∨ name = k.snippetTemplate) :
      Throws P (c.templateSource.render name (k.slots t c) : Procedure σ Text) := by
    obtain ⟨pieces, hfills⟩ := k.exists_fillsIn t c hname
    rw [templateSource, h, hfills.render_eq]
    exact throws_pure _
  exact fun k t => ⟨hrender k t (.inl rfl), hrender k t (.inr rfl)⟩

/-- A run with built-in templates fails with plain errors only. -/
theorem throws_run_of_builtin {σ : Type} [FileAccess (StateM σ)] [FormatAccess (StateM σ)]
    {c : Config} (h : c.templateDir = none) (sql : Text) :
    Throws ScaffoldError.IsPlain (c.run sql : Procedure σ Report) :=
  throws_run_of_steps .validation .write (templatesThrow_builtin h) fun fault _ => .schema fault

/-- The templates of every kind render for every table, to their texts with the values in
place; so a run without a directory of templates fails with plain errors only. -/
theorem run_with_builtin_templates [GoFormatter] (c : Config) :
    (∀ (k : ArtifactKind) (t : Table), ∀ name ∈ [k.fileTemplate, k.snippetTemplate],
      ∃ pieces, k.FillsIn t c name pieces
        ∧ ∀ w, exec (TemplateSource.builtin.render name (k.slots t c) : Procedure Workspace Text) w
          = (.ok (pieces.flatMap (value (k.slotValue t c))), w))
    ∧ (c.templateDir = none → ∀ sql w e w',
      exec (c.run sql : Procedure Workspace Report) w = (.error e, w') → e.IsPlain) := by
  refine ⟨fun k t name hname => ?_, fun h sql => throws_run_of_builtin h sql⟩
  obtain ⟨pieces, hfills⟩ := k.exists_fillsIn t c (by simpa using hname)
  refine ⟨pieces, hfills, fun w => ?_⟩
  rw [hfills.render_eq]
  rfl

end Runs

theorem run_with_builtin_templates_unheaded :
    ∃ w', exec (({} : Config).run "CREATE TABLE t".toList : Procedure Workspace Report) {}
        = (.error (.schema .tableNotFound), w')
      ∧ (ScaffoldError.schema .tableNotFound).IsPlain := by
  have hrun : exec (({} : Config).run "CREATE TABLE t".toList : Procedure Workspace Report) {}
      = (.error (.schema .tableNotFound), {}) := by
    decide +kernel
  exact ⟨{}, hrun, (run_with_builtin_templates {}).2 rfl _ _ _ _ hrun⟩

end Config

end TableScaffold
