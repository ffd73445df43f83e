import TableScaffold.Proofs.Artifact.Requests
import TableScaffold.Proofs.Naming.SnakeCase

set_option autoImplicit false

/-!
# Messages can be read back

The text of a message determines its name, and the type and name of every field, as long as no
name has a line feed; and so do the texts of the three messages of a table
(`Message.build_reads_back`).
-/

namespace TableScaffold

open Template (SlotName)

namespace Message

variable {name : Text} {columns : List Column}

/-! ## The messages of a table -/

theorem OnOneRow.sublist {sub : List Column} (h : OnOneRow name columns)
    (hsub : sub.Sublist columns) : OnOneRow name sub :=
  ⟨h.name, fun x hx => h.columns x (hsub.subset hx)⟩

/-- The name of a message stands on one row if the name of its table does. -/
theorem OnOneRow.exported {t : Table} (h : OnOneRow t.name t.columns) (before behind : Text)
    (hbefore : '\n' ∉ before) (hbehind : '\n' ∉ behind) :
    OnOneRow (before ++ Naming.exported t.name ++ behind) t.columns := by
  refine ⟨fun hmem => ?_, h.columns⟩
  rcases List.mem_append.mp hmem with hmem | hmem
  · rcases List.mem_append.mp hmem with hmem | hmem
    · exact hbefore hmem
    · exact h.name (Naming.mem_of_mem_exported hmem (by decide) (by decide))
  · exact hbehind hmem

end Message

/-- A slot of the messages of a table is filled with a text that is read as a message for some
columns. -/
def Table.Carries (t : Table) (c : Config) (n : SlotName) (name : Text) (columns : List Column) :
    Prop :=
  ∃ text, ArtifactKind.proto.Fills t c n text ∧ Message.ReadsAs text name columns

theorem Table.HasFields.carries {t : Table} {c : Config} {n : SlotName} {name : Text}
    {columns : List Column} (h : t.HasFields c n name columns)
    (hrow : Message.OnOneRow name columns) : t.Carries c n name columns := by
  obtain ⟨text, hfills, hmessage⟩ := h
  exact ⟨text, hfills, hmessage.reads hrow⟩

namespace Message

/-- The text of a message determines its name and the types and names of its fields, which are
numbered from 1 without a gap; so do the three messages of a table, although two of them leave
columns out. -/
theorem build_reads_back :
    (∀ name columns, OnOneRow name columns → ReadsAs (build name columns) name columns)
    ∧ (∀ name columns other others, OnOneRow name columns → OnOneRow other others →
      build name columns = build other others →
        name = other ∧ columns.map typedName = others.map typedName)
    ∧ ∀ (t : Table) (c : Config), OnOneRow t.name t.columns →
      t.Carries c .entityMessage (Naming.exported t.name) t.columns
      ∧ t.Carries c .createMessage ("Create".toList ++ Naming.exported t.name ++ "Request".toList)
          t.regularColumns
      ∧ t.Carries c .updateMessage ("Update".toList ++ Naming.exported t.name ++ "Request".toList)
          t.changedColumns := by
  refine ⟨fun _ _ h => readsAs_build h, fun name columns other others h hother heq => ?_,
    fun t c h => ?_⟩
  · have hread := readsAs_build h
    rw [heq] at hread
    exact hread.unique (readsAs_build hother)
  · have hentity : OnOneRow (Naming.exported t.name) t.columns := by
      simpa using h.exported [] [] List.not_mem_nil List.not_mem_nil
    have hcreate := h.exported "Create".toList "Request".toList (by decide) (by decide)
    have hupdate := h.exported "Update".toList "Request".toList (by decide) (by decide)
    exact ⟨(t.hasFields_of_lookup c rfl rfl).carries hentity,
      (t.hasFields_of_lookup c rfl t.createColumns_eq).carries
        (hcreate.sublist List.filter_sublist),
      (t.hasFields_of_lookup c rfl t.updateColumns_eq).carries
        (hupdate.sublist List.filter_sublist)⟩

/-- A table whose quoted names look like fields and like the end of a message. -/
def Sample.quoted : Table :=
  ⟨"a \x7b string b".toList, [⟨"id".toList, "uuid".toList, []⟩,
    ⟨"x = 1;    int32 y = 2".toList, "int".toList, []⟩,
    ⟨"created_at".toList, "timestamp".toList, []⟩, ⟨"\x7d".toList, "text".toList, []⟩]⟩

theorem build_reads_back_quoted :
    let t := Sample.quoted
    OnOneRow t.name t.columns
      ∧ ReadsAs (build t.name t.columns) t.name t.columns
      ∧ build t.name t.columns ≠ build t.name t.regularColumns
      ∧ t.Carries {} .createMessage ("Create".toList ++ Naming.exported t.name ++ "Request".toList)
        t.regularColumns := by
  have hrow : OnOneRow Sample.quoted.name Sample.quoted.columns := ⟨by decide, by decide⟩
  have hregular : OnOneRow Sample.quoted.name Sample.quoted.regularColumns :=
    hrow.sublist List.filter_sublist
  refine ⟨hrow, build_reads_back.1 _ _ hrow, fun heq => ?_,
    (build_reads_back.2.2 Sample.quoted {} hrow).2.1⟩
  have htyped := (build_reads_back.2.1 _ _ _ _ hrow hregular heq).2
  exact absurd htyped (by decide +kernel)

end Message

end TableScaffold
