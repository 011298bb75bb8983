import Catalog.Declaration.Collection
import Catalog.Declaration.Field
import Catalog.Declaration.Index

/-! Declared types: fields, collection and indexes. -/

namespace Catalog

/-- A declared type. -/
structure TypeDeclaration where
  typeName : String
  /-- The type this one directly derives from. -/
  base? : Option String := none
  fields : FieldMap := .empty
  /-- Absent for a type that does not declare a collection. -/
  collection? : Option CollectionDeclaration := none
  indexes : List IndexDeclaration := []
  deriving DecidableEq

namespace TypeDeclaration

/-- The declared collection, or else a default one named for the type. -/
def collection (type : TypeDeclaration) : CollectionDeclaration :=
  type.collection?.getD { name := type.typeName }

/-- The field declared under a member. -/
def requireField (type : TypeDeclaration) (member : String) : Except Error Field :=
  match type.fields.get? member with
  | some field => .ok field
  | none => .error (.unresolvableField type.typeName member)

/-- Checks an index: first a given name, then that each member it refers to is declared. -/
def checkIndex (type : TypeDeclaration) (index : IndexDeclaration) : Except Error Unit := do
  if let some name := index.explicitName? then checkName .index name
  index.members.forM fun member => discard (type.requireField member)

/-- Checks a declaration: the type's name, the collection's name, then each index. -/
def validate (type : TypeDeclaration) : Except Error Unit := do
  if type.typeName = "" then throw .emptyTypeName
  type.collection.check
  type.indexes.forM type.checkIndex

end TypeDeclaration

end Catalog
