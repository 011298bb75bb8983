import Catalog.Declaration.Scope
import Mathlib.Data.List.Nodup

/-! What is found under a name: fields under their members, types under their own names.
As members and the names of types are distinct, each of them is found there.
-/

namespace Catalog

/-- An item is found under its own key if no two items share one. -/
theorem find?_key_of_mem {α : Type} {key : α → String} {items : List α}
    (distinct : (items.map key).Nodup) {item : α} (member : item ∈ items)
    : items.find? (key · = key item) = some item := by
  cases found : items.find? (key · = key item) with
  | none =>
      have absent := List.find?_eq_none.mp found item member
      simp at absent
  | some other =>
      have same : key other = key item := by simpa using List.find?_some found
      rw [List.inj_on_of_nodup_map distinct (List.mem_of_find?_eq_some found) member same]

namespace FieldMap

variable {map : FieldMap} {member : String} {field : Field}

/-- Under a member stands the field that is declared for it. -/
theorem get?_eq_some
    : map.get? member = some field ↔ field ∈ map.toList ∧ field.member = member := by
  constructor
  · intro found
    exact ⟨List.mem_of_find?_eq_some found, by simpa using List.find?_some found⟩
  · rintro ⟨declared, rfl⟩
    exact find?_key_of_mem map.valid.members_nodup declared

/-- A declared member resolves to the stored name of its field. -/
theorem resolve_of_mem (declared : field ∈ map.toList)
    : map.resolve field.member = field.storedName := by
  rw [resolve, alias?, get?_eq_some.mpr ⟨declared, rfl⟩, Option.bind_some, Field.storedName]

/-- Fields are stored under names that are not empty, be they aliases or members. -/
theorem storedName_ne (declared : field ∈ map.toList) : field.storedName ≠ "" := by
  rw [Field.storedName]
  cases named : field.alias? with
  | none => exact map.valid.member_ne field declared
  | some stored =>
      rintro rfl
      exact map.valid.alias_ne field declared named

end FieldMap

theorem TypeDeclaration.requireField_eq_ok {type : TypeDeclaration} {member : String}
    {field : Field}
    : type.requireField member = .ok field ↔ type.fields.get? member = some field := by
  rw [requireField]
  cases type.fields.get? member <;> simp

namespace Scope

variable {scope : Scope} {typeName : String} {type : TypeDeclaration}

theorem get?_eq_none_iff
    : scope.get? typeName = none ↔ ∀ type ∈ scope.types, type.typeName ≠ typeName := by
  simp [get?]

theorem mem_of_get? (found : scope.get? typeName = some type) : type ∈ scope.types :=
  List.mem_of_find?_eq_some found

theorem get?_of_mem (distinct : (scope.types.map TypeDeclaration.typeName).Nodup)
    (member : type ∈ scope.types)
    : scope.get? type.typeName = some type :=
  find?_key_of_mem distinct member

end Scope

end Catalog
