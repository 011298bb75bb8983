import Catalog.Annotated.Attribute
import Catalog.Declaration.Basic
import Catalog.Expr.Data

/-! What an annotated struct stands for: a declaration that is still to be put together.
A draft holds texts and names as they are written; the declaration made of it is checked like
any other.
-/

namespace Catalog.Annotated

/-- An index of a draft. -/
structure IndexDraft where
  name? : Option String := none
  terms : List Element := []
  values : List SortedElement := []
  unique : Bool := false
  serialized? : Option Bool := none
  data? : Option String := none
  permissions? : Option String := none
  deriving DecidableEq

/-- A declaration to be put together. -/
structure Draft where
  typeName : String
  base? : Option Source.Path := none
  fields : List Field := []
  collection? : Option CollectionAttribute := none
  indexes : List IndexDraft := []
  deriving DecidableEq

/-- The declared collection. Without a name of its own it has that of the type. -/
def CollectionAttribute.toDeclaration (given : CollectionAttribute) (typeName : String)
    : Except Error CollectionDeclaration := do
  let data? ← given.data?.mapM (JsonObject.parse "data")
  let permissions? ← given.permissions?.mapM (JsonObject.parse "permissions")
  return {
    name := given.name?.getD typeName
    ttlDays? := given.ttlDays?
    historyDays? :=
      if given.noHistory then none else some (given.historyDays?.getD defaultHistoryDays)
    data?, permissions? }

/-- The declared index. -/
def IndexDraft.toDeclaration (draft : IndexDraft) : Except Error IndexDeclaration := do
  let data? ← draft.data?.mapM (JsonObject.parse "data")
  let permissions? ← draft.permissions?.mapM (JsonObject.parse "permissions")
  return {
    name? := draft.name?
    terms := draft.terms
    values := draft.values
    unique := draft.unique
    serialized := draft.serialized?.getD true
    data?, permissions? }

/-- The declaration of a draft: its fields, its collection, its indexes, and the checks of the
whole. The base is the type that its path leads to, whose name is declared elsewhere; where nothing
else is known of it, it is taken to have the name that the path ends with.
-/
def Draft.declare (draft : Draft) (nameOf : Source.Path → String := Source.Path.lastName)
    : Except Error TypeDeclaration := do
  let fields ← FieldMap.ofList draft.fields
  let collection? ← draft.collection?.mapM (·.toDeclaration draft.typeName)
  let indexes ← draft.indexes.mapM IndexDraft.toDeclaration
  let type : TypeDeclaration :=
    { typeName := draft.typeName, base? := draft.base?.map nameOf, fields, collection?, indexes }
  type.validate
  return type

end Catalog.Annotated
