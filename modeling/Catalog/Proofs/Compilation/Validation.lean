import Catalog.Proofs.Compilation.Faults

/-! Validation and compilation agree on every type that has a name.
Each of them walks a declaration on its own. Without its results, compiling a part of a
declaration is checking that part, so both find the same fault first or none.
-/

namespace Catalog

open Outcome

namespace TypeDeclaration

variable (type : TypeDeclaration)

-----------------------------------------------------------------------------------------
-- Compiling a part without its result is checking it
-----------------------------------------------------------------------------------------

/-- Compiling a collection checks its name. -/
theorem discard_compileCollection : discard type.compileCollection = type.collection.check :=
  (discard_map _ _).trans (discard_unit _)

/-- Compiling an element requires the field that it refers to, if it refers to one. -/
theorem discard_compileElement (element : Element)
    : discard (type.compileElement element)
      = element.member?.elim (.ok ()) fun member => discard (type.requireField member) := by
  cases element with
  | field member => exact (discard_map _ _).trans (discard_unit _)
  | selfReference | timestamp => rfl

/-- Compiling a value compiles its element. -/
theorem discard_compileValue (value : SortedElement)
    : discard (type.compileValue value) = discard (type.compileElement value.element) :=
  discard_map _ _

/-- Naming an index checks the name that it is given, if it is given one. -/
theorem discard_compileIndexName (index : IndexDeclaration)
    : discard (type.compileIndexName index)
      = index.explicitName?.elim (.ok ()) (checkName .index) := by
  rw [compileIndexName]
  cases index.explicitName? with
  | none => rfl
  | some name => exact (discard_map _ _).trans (discard_unit _)

/-- Compiling an index checks it: its name, then the members of its terms, then those of its
values.
-/
theorem discard_compileIndex (index : IndexDeclaration)
    : discard (type.compileIndex index) = type.checkIndex index := by
  have compiled : discard (type.compileIndex index)
      = (do
        discard (type.compileIndexName index)
        discard (index.terms.mapM type.compileElement)
        discard (index.values.mapM type.compileValue)) :=
    discard_bind fun _ => discard_bind fun _ => discard_map _ _
  -- The check walks through the elements of both lists at once, the compilation list by list.
  rw [compiled, checkIndex_eq, discard_compileIndexName, discard_mapM, discard_mapM,
    IndexDeclaration.members, forM_filterMap, IndexDeclaration.elements]
  simp only [discard_compileElement, discard_compileValue, List.forM_eq_forM, List.forM_append,
    List.forM_map]

/-- Compiling a type checks its collection and then its indexes, in order. -/
theorem discard_compile
    : discard type.compile
      = (do
        type.collection.check
        type.indexes.forM type.checkIndex) := by
  rw [compile, discard_mapM, compilations, List.forM_eq_forM, List.forM_cons, List.forM_map]
  simp only [id, discard_map, discard_compileCollection, discard_compileIndex,
    List.forM_eq_forM]

-----------------------------------------------------------------------------------------
-- Agreement
-----------------------------------------------------------------------------------------

variable {type}

/-- Validating a type that has a name is compiling it without the result. -/
theorem validate_eq_discard_compile (named : type.typeName ≠ "")
    : type.validate = discard type.compile := by
  rw [discard_compile, validate, if_neg named]

/-- A valid type has a name. -/
theorem typeName_ne_of_valid (valid : type.validate = .ok ()) : type.typeName ≠ "" :=
  (validate_eq_ok.mp valid).1

/-- A valid type compiles. -/
theorem compile_of_valid (valid : type.validate = .ok ())
    : ∃ operations, type.compile = .ok operations := by
  rw [validate_eq_discard_compile (typeName_ne_of_valid valid)] at valid
  exact discard_eq_ok.mp valid

/-- Compiling a type fails only for its declaration. -/
theorem compile_fails : FailsOnly Error.InDeclaration type.compile :=
  FailsOnly.mapM fun _ member => type.compilations_fail member

/-- A type that has a name is valid exactly if it compiles, and it fails both with the same
error: for a name with its fault, or for a member with the name of the type. A type without a
name is not valid.
-/
theorem validate_agrees_with_compile (type : TypeDeclaration)
    : (type.typeName ≠ ""
        → (type.validate = .ok () ↔ ∃ operations, type.compile = .ok operations)
          ∧ ∀ error,
              (type.validate = .error error ↔ type.compile = .error error)
              ∧ (type.compile = .error error → error.InDeclaration))
      ∧ (type.typeName = "" → type.validate = .error .emptyTypeName) := by
  constructor
  · intro named
    rw [validate_eq_discard_compile named]
    exact ⟨discard_eq_ok, fun error => ⟨discard_eq_error, compile_fails error⟩⟩
  · intro unnamed
    rw [validate, if_pos unnamed]
    rfl

/-- A type whose first index refers to a member that is not declared, and whose second one has a
reserved name, fails for the member; without these indexes it compiles.
-/
theorem validate_agrees_with_compile_people
    : let people : TypeDeclaration := { typeName := "people" }
      let faulty : TypeDeclaration := {
        people with
        indexes := [
          { name? := some "", terms := [.selfReference], values := [{ element := .field "age" }] },
          { name? := some "sets", terms := [.field "name"] }] }
      faulty.compile = .error (.unresolvableField "people" "age")
      ∧ ∃ operations, people.compile = .ok operations := by
  intro people faulty
  have named : people.typeName ≠ "" := by decide
  have refused : faulty.validate = .error (.unresolvableField "people" "age") := rfl
  have accepted : people.validate = .ok () := rfl
  exact ⟨(((validate_agrees_with_compile faulty).1 named).2 _).1.mp refused,
    ((validate_agrees_with_compile people).1 named).1.mp accepted⟩

end TypeDeclaration

end Catalog
