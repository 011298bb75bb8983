import Catalog.Declaration.IndexName
import Mathlib.Data.List.Infix

/-! Names that the database accepts.
A given name is checked. A derived one is not, and need not be: it contains `_by`, which no
refused name does.
-/

namespace Catalog

/-- A name is accepted if it is neither empty nor kept by the database for itself. -/
def Accepted (name : String) : Prop :=
  name ≠ "" ∧ name ∉ reservedNames

/-- Checking a name passes exactly the accepted ones. -/
theorem checkName_eq_ok {kind : NameKind} {name : String}
    : checkName kind name = .ok () ↔ Accepted name := by
  rw [checkName, Accepted]
  split
  · simp [*]
  · split <;> simp [*]

/-- A name that contains `_by` is accepted, since none of the refused ones does. -/
theorem accepted_of_infix {name : String} (contained : "_by".toList <:+: name.toList)
    : Accepted name := by
  have refused : ∀ name ∈ "" :: reservedNames, ¬"_by".toList <:+: name.toList := by decide
  constructor
  · rintro rfl
    exact refused "" List.mem_cons_self contained
  · intro reserved
    exact refused name (List.mem_cons_of_mem _ reserved) contained

/-- Between two tokens of a name stands an underscore; so `by` follows one if it is not the
first token.
-/
theorem intercalate_by {before : List String} (present : before ≠ []) (after : List String)
    : ∃ rest, "_".intercalate (before ++ "by" :: after) = "_".intercalate before ++ "_by" ++ rest := by
  have first : "_".intercalate ("by" :: after) = "by" ++ "_".intercalate ("" :: after) := by
    rw [← String.intercalate_cons_append, String.append_empty]
  have joined : "_".intercalate before ++ "_" ++ "by" = "_".intercalate before ++ "_by" :=
    String.append_assoc
  rw [String.intercalate_append_of_ne_nil present (List.cons_ne_nil _ _), first,
    ← String.append_assoc, joined]
  exact ⟨_, rfl⟩

namespace IndexDeclaration

variable (index : IndexDeclaration) (collection : String) (fields : FieldMap)

/-- A derived name is what the values contribute, then `_by`, then what the terms add. -/
theorem derivedName_eq_append
    : ∃ values terms, index.derivedName collection fields = values ++ "_by" ++ terms := by
  rw [derivedName]
  -- Without values, the collection's name is the token that stands before `by`.
  have present : (if index.values.isEmpty then [collection]
      else index.values.flatMap (valueTokens collection fields)) ≠ [] := by
    cases index.values with
    | nil => exact List.cons_ne_nil _ _
    | cons value others => exact List.cons_ne_nil _ _
  obtain ⟨terms, named⟩ := intercalate_by present (index.terms.map (elementToken collection fields))
  exact ⟨_, terms, named⟩

/-- Every derived name is accepted, whatever the index, its collection and its fields are. -/
theorem derivedName_accepted : Accepted (index.derivedName collection fields) := by
  obtain ⟨values, terms, derived⟩ := index.derivedName_eq_append collection fields
  apply accepted_of_infix
  rw [derived, String.toList_append, String.toList_append]
  exact ⟨_, _, rfl⟩

end IndexDeclaration

end Catalog
