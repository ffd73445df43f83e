import TableScaffold.Proofs.Artifact.Slots
import TableScaffold.Proofs.Generation.Rendering

set_option autoImplicit false

/-!
# Built-in templates render

Every built-in template is readable (`isReadable_fileLines`, `isReadable_snippetLines`), and
uses only slots that its kind of artifact has a value for.  So the file and the snippet of a
table can be rendered whatever the table is, and their texts are the lines of the template
with the values in place (`renderIn_fileTemplate`, `renderIn_snippetTemplate`).
-/

namespace TableScaffold

open Template Piece

/-! ## Readable templates -/

namespace Template

/-- The characters of a text that is spelled out. -/
theorem toList_of_eq_ofList {s : String} {l : List Char} (h : s = String.ofList l) :
    s.toList = l := by
  rw [h, String.toList_ofList]

namespace Builtin

set_option maxRecDepth 10000 in
theorem Proto.isReadable_lines : IsReadable (ofLines lines) where
  isTag := by decide
  literals := by
    unfold lines service messages
    simp (disch := exact rfl) only [line, List.cons_append, List.nil_append, ofLines,
      List.map_cons, List.map_nil, literal?, toList_of_eq_ofList]
    decide

set_option maxRecDepth 10000 in
theorem Handler.isReadable_lines : IsReadable (ofLines lines) where
  isTag := by decide
  literals := by
    unfold lines header create getSingle getList update delete
    simp (disch := exact rfl) only [line, List.cons_append, List.nil_append, ofLines,
      List.map_cons, List.map_nil, literal?, toList_of_eq_ofList]
    decide

set_option maxRecDepth 10000 in
theorem Service.isReadable_lines : IsReadable (ofLines lines) where
  isTag := by decide
  literals := by
    unfold lines header create getByID getList update updatePatch delete
    simp (disch := exact rfl) only [line, List.cons_append, List.nil_append, ofLines,
      List.map_cons, List.map_nil, literal?, toList_of_eq_ofList]
    decide

set_option maxRecDepth 10000 in
theorem Repository.isReadable_lines : IsReadable (ofLines lines) where
  isTag := by decide
  literals := by
    unfold lines header create getByKey listQuery listRows update updatePatch delete
    simp (disch := exact rfl) only [line, List.cons_append, List.nil_append, ofLines,
      List.map_cons, List.map_nil, literal?, toList_of_eq_ofList]
    decide

theorem isReadable_fileLines : ∀ k : ArtifactKind, IsReadable (ofLines (fileLines k))
  | .proto => Proto.isReadable_lines
  | .handler => Handler.isReadable_lines
  | .service => Service.isReadable_lines
  | .repository => Repository.isReadable_lines

theorem isReadable_snippetLines (k : ArtifactKind) : IsReadable (ofLines (snippetLines k)) where
  isTag := by cases k <;> decide
  literals := by cases k <;> decide +kernel

theorem find?_fileTemplate (k : ArtifactKind) :
    find? k.fileTemplate = some (sourceOfLines (fileLines k)) := by
  cases k <;> rfl

theorem find?_snippetTemplate (k : ArtifactKind) :
    find? k.snippetTemplate = some (sourceOfLines (snippetLines k)) := by
  cases k <;> rfl

/-- The built-in templates use no slots that their kind has no value for. -/
theorem slotNames_fileLines (k : ArtifactKind) :
    ∀ n ∈ (ofLines (fileLines k)).filterMap slotName?, n ∈ k.slotNames := by
  cases k <;> decide

theorem slotNames_snippetLines (k : ArtifactKind) :
    ∀ n ∈ (ofLines (snippetLines k)).filterMap slotName?, n ∈ k.slotNames := by
  cases k <;> decide

end Builtin

end Template

/-! ## Rendering -/

section

variable [Engine] (k : ArtifactKind) (t : Table) (c : Config) (w : Workspace)

/-- A built-in template renders to its lines. -/
theorem TemplateSource.renderIn_of_find? {name : Text} {lines : List (List Piece)}
    (hfind : Builtin.find? name = some (sourceOfLines lines))
    (hreadable : IsReadable (ofLines lines))
    (hnames : ∀ n ∈ (ofLines lines).filterMap slotName?, n ∈ k.slotNames) :
    builtin.renderIn w name (k.slots t c) = .ok (textOfLines (k.slotValue t c) lines) := by
  refine renderIn_eq_ok.mpr ⟨sourceOfLines lines, ?_, ?_⟩
  · unfold loadIn load
    rw [hfind]
    rfl
  · exact render_sourceOfLines hreadable (k.haveValues_slots t c hnames) name

/-- The text that the built-in template of a kind makes of a table. -/
theorem renderIn_fileTemplate :
    TemplateSource.builtin.renderIn w k.fileTemplate (k.slots t c)
      = .ok (textOfLines (k.slotValue t c) (Builtin.fileLines k)) :=
  TemplateSource.renderIn_of_find? k t c w (Builtin.find?_fileTemplate k)
    (Builtin.isReadable_fileLines k) (Builtin.slotNames_fileLines k)

/-- The snippet that the built-in template of a kind makes of a table. -/
theorem renderIn_snippetTemplate :
    TemplateSource.builtin.renderIn w k.snippetTemplate (k.slots t c)
      = .ok (textOfLines (k.slotValue t c) (Builtin.snippetLines k)) :=
  TemplateSource.renderIn_of_find? k t c w (Builtin.find?_snippetTemplate k)
    (Builtin.isReadable_snippetLines k) (Builtin.slotNames_snippetLines k)

end

end TableScaffold
