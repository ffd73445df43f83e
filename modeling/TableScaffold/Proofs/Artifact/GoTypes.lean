import TableScaffold.Proofs.Artifact.Requests

set_option autoImplicit false

/-!
# Go types of fields and of what they are filled with

A column has a Go type twice: the message of a row declares a field for it, and the repository
fills that field with what an accessor gives of the variable that the column was scanned into.
The two are the same but for the types that have no wrapper of their own, whose texts fill fields
of another type (`Table.response_types`).
-/

namespace TableScaffold

open Template

/-- A type of generated Go code. -/
inductive GoType where
  | string
  | int32
  | int64
  | float64
  | bool
  deriving DecidableEq, Repr

namespace GoType

/-- The type of the value that a wrapper keeps under the name of an accessor. -/
def ofAccessor? (accessor : Text) : Option GoType :=
  ([("String", string), ("Int64", int64), ("Float64", float64)].map
    fun p => (p.1.toList, p.2)).lookup accessor

/-- The type that a field of a proto3 type has in generated code. -/
def ofProto? (protoType : Text) : Option GoType :=
  ([("string", string), ("int32", int32), ("int64", int64), ("double", float64),
    ("bool", bool)].map fun p => (p.1.toList, p.2)).lookup protoType

end GoType

namespace Column

/-- The type of the value that a response takes from the column's variable. -/
def assignedType? (x : Column) : Option GoType := GoType.ofAccessor? x.scalar.scanWrapper.accessor

/-- The type of the column's field in the message of a row. -/
def declaredType? (x : Column) : Option GoType := GoType.ofProto? x.scalar.protoType

end Column

/-! ## Types without a wrapper -/

namespace ScalarType

/-- The SQL types whose fields are no texts, although their columns are scanned as texts, as they
are recognised. -/
def unwrapped : List Text :=
  ["integer", "int", "smallint", "number", "boolean"].map (·.toList)

/-- A small integer or a truth value comes from one of a few SQL types. -/
theorem ofSql_eq_int32_or_bool {sqlType : Text} : ofSql sqlType = int32 ∨ ofSql sqlType = bool
    ↔ dropTimeZone (normalise sqlType) ∈ unwrapped := by
  unfold ofSql
  generalize dropTimeZone (normalise sqlType) = name
  have hmembers : ∀ p ∈ recognised, (p.2 = int32 ∨ p.2 = bool) ↔ p.1 ∈ unwrapped := by decide
  have hkeys : ∀ name ∈ unwrapped, ∃ p ∈ recognised, p.1 = name := by decide
  cases hlookup : recognised.lookup name with
  | some s =>
    obtain ⟨before, after, hsplit, -⟩ := List.lookup_eq_some_iff.mp hlookup
    apply hmembers (name, s)
    rw [hsplit]
    exact List.mem_append_right _ List.mem_cons_self
  | none =>
    constructor
    · rintro (h | h) <;> cases h
    · intro hname
      obtain ⟨p, hp, rfl⟩ := hkeys name hname
      simpa using List.lookup_eq_none_iff.mp hlookup p hp

/-- Only texts fill fields of another type. -/
theorem exists_types (s : ScalarType) : ∃ assigned declared,
    GoType.ofAccessor? s.scanWrapper.accessor = some assigned
      ∧ GoType.ofProto? s.protoType = some declared
      ∧ (assigned = declared ↔ ¬ (s = int32 ∨ s = bool))
      ∧ (assigned ≠ declared → assigned = .string ∧ (declared = .int32 ∨ declared = .bool)) := by
  cases s <;> exact ⟨_, _, rfl, rfl, by decide, by decide⟩

end ScalarType

/-! ## Responses and rows -/

namespace Table

/-- A response has one line for each regular column, which fills the column's field from its
variable, and the message of a row has one field for each column.  For every regular column, what
the line assigns has the type of the field unless the column is a small integer or a truth value,
and then it is a text. -/
theorem response_types (t : Table) (c : Config) :
    t.Lists c .responseFields ['\n'] 2 t.regularColumns (fun x =>
        Naming.exported x.name ++ ": ".toList ++ Naming.goVariable x.name
          ++ '.' :: x.scalar.scanWrapper.accessor ++ [','])
      ∧ t.HasFields c .entityMessage (Naming.exported t.name) t.columns
      ∧ t.regularColumns.Sublist t.columns
      ∧ ∀ x ∈ t.regularColumns,
        IsIndented (Naming.exported x.name ++ ": ".toList ++ Naming.goVariable x.name
          ++ '.' :: x.scalar.scanWrapper.accessor ++ [',']) (Binding.ofColumn x).responseLine
        ∧ ∃ assigned declared, x.assignedType? = some assigned
          ∧ x.declaredType? = some declared
          ∧ (assigned = declared
            ↔ ScalarType.dropTimeZone (ScalarType.normalise x.sqlType) ∉ ScalarType.unwrapped)
          ∧ (assigned ≠ declared →
            assigned = .string ∧ (declared = .int32 ∨ declared = .bool)) := by
  refine ⟨t.lists_of_lookup c rfl (map_regular _) Binding.responseLine_eq,
    t.hasFields_of_lookup c rfl rfl, List.filter_sublist, ?_⟩
  intro x _
  constructor
  · exact ⟨2, Binding.responseLine_eq x⟩
  · rw [← ScalarType.ofSql_eq_int32_or_bool]
    exact x.scalar.exists_types

/-- The value of an integer column is a text, and its field is none. -/
theorem not_assigned_as_declared : ¬ ∀ (t : Table), ∀ x ∈ t.regularColumns,
    x.assignedType? = x.declaredType? := by
  intro h
  have hcolumn := h ⟨"stock".toList, [⟨"amount".toList, "integer".toList, []⟩]⟩
    ⟨"amount".toList, "integer".toList, []⟩ (by decide +kernel)
  exact absurd hcolumn (by decide +kernel)

end Table

end TableScaffold
