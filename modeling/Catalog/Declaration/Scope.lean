import Catalog.Declaration.Basic

/-! The declared types of a schema, in the order of their registration. -/

namespace Catalog

/-- Registered types, in the order in which they are compiled. -/
structure Scope where
  types : List TypeDeclaration := []
  deriving DecidableEq

namespace Scope

/-- The type of the given name. -/
def get? (scope : Scope) (typeName : String) : Option TypeDeclaration :=
  scope.types.find? (·.typeName = typeName)

/-- The type of the given name, which has to be registered. -/
def require (scope : Scope) (typeName : String) : Except Error TypeDeclaration :=
  match scope.get? typeName with
  | some type => .ok type
  | none => .error (.unknownType typeName)

/-- Tries to register a type, and returns what comes of it with the scope afterwards. The name of
the type must be new and its declaration valid.
-/
def tryInsert (scope : Scope) (type : TypeDeclaration) : Except Error Unit × Scope :=
  if (scope.get? type.typeName).isSome then (.error (.duplicateType type.typeName), scope)
  else match type.validate with
  | .ok () => (.ok (), ⟨scope.types ++ [type]⟩)
  | .error error => (.error error, scope)

/-- Tries to register the outcome of a declaration; a failed one is reported under the type's
name.
-/
def tryRegister (scope : Scope) (typeName : String) (declared : Except Error TypeDeclaration)
    : Except Error Unit × Scope :=
  match declared with
  | .ok type => scope.tryInsert type
  | .error error => (.error (.within (.declaration typeName) error), scope)

/-- Registers a type. -/
def insert (scope : Scope) (type : TypeDeclaration) : Except Error Scope :=
  stateAfter (scope.tryInsert type)

/-- Registers the outcome of a declaration. -/
def register (scope : Scope) (typeName : String) (declared : Except Error TypeDeclaration)
    : Except Error Scope :=
  stateAfter (scope.tryRegister typeName declared)

/-- The types whose base is the given one. Types that derive from it through another type are
not among them.
-/
def directSubtypes (scope : Scope) (base : String) : List TypeDeclaration :=
  scope.types.filter (·.base? = some base)

end Scope

end Catalog
