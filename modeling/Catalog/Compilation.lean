import Catalog.Declaration.IndexName
import Catalog.Declaration.Scope
import Catalog.Operation.Basic

/-! Compilation of declared types into schema operations: the type's collection, then its
indexes in the order of their declaration.
-/

namespace Catalog

/-- What a compilation pass includes. -/
structure PassOptions where
  /-- Compiling the subtypes of a base, also compile the base itself, last. -/
  includeBase : Bool := false
  /-- Leave out types that do not declare a collection. -/
  skipUndeclared : Bool := false
  deriving DecidableEq, Repr

namespace TypeDeclaration

/-- Compiles the collection of a type. -/
def compileCollection (type : TypeDeclaration) : Except Error CollectionCreation := do
  let collection := type.collection
  collection.check
  return {
    name := collection.name
    historyDays? := collection.historyDays?
    ttlDays? := collection.ttlDays?
    data? := collection.data?
    permissions? := collection.permissions? }

/-- Compiles an element; a field has to be declared and is known by its stored name. -/
def compileElement (type : TypeDeclaration) : Element → Except Error IndexedField
  | .field member => do
    discard (type.requireField member)
    return .data (type.fields.resolve member)
  | .selfReference => .ok .reference
  | .timestamp => .ok .timestamp

/-- Compiles a value. -/
def compileValue (type : TypeDeclaration) (value : SortedElement)
    : Except Error IndexedValue := do
  return { field := ← type.compileElement value.element, reverse := value.order = .reverse }

/-- The name of an index: the given one, which has to be valid, or else the derived one. -/
def compileIndexName (type : TypeDeclaration) (index : IndexDeclaration)
    : Except Error String :=
  match index.explicitName? with
  | some name => do
    checkName .index name
    return name
  | none => .ok (index.derivedName type.collection.name type.fields)

/-- Compiles an index: its name, its terms, then its values. -/
def compileIndex (type : TypeDeclaration) (index : IndexDeclaration)
    : Except Error IndexCreation := do
  let name ← type.compileIndexName index
  let terms ← index.terms.mapM type.compileElement
  let values ← index.values.mapM type.compileValue
  return {
    name, terms, values
    source := type.collection.name
    unique := index.unique
    serialized := index.serialized
    data? := index.data?
    permissions? := index.permissions? }

/-- The compilations of a type's operations, in order. -/
def compilations (type : TypeDeclaration) : List (Except Error Operation) :=
  type.compileCollection.map .createCollection
    :: type.indexes.map fun index => (type.compileIndex index).map .createIndex

/-- Compiles all operations of a type. -/
def compile (type : TypeDeclaration) : Except Error (List Operation) :=
  type.compilations.mapM id

end TypeDeclaration

namespace PassOptions

/-- Whether a pass leaves a type out. -/
def skips (options : PassOptions) (type : TypeDeclaration) : Bool :=
  options.skipUndeclared && type.collection?.isNone

/-- The types that a pass compiles. -/
def select (options : PassOptions) (types : List TypeDeclaration) : List TypeDeclaration :=
  types.filter fun type => !options.skips type

/-- The operations of a pass, without executing any. -/
def plan (options : PassOptions) (types : List TypeDeclaration)
    : Except Error (List Operation) :=
  return (← (options.select types).mapM TypeDeclaration.compile).flatten

/-- The types that belong to a base: its direct subtypes, and the base itself if the pass
includes it.
-/
def resolveBase (options : PassOptions) (scope : Scope) (base : String)
    : Except Error (List TypeDeclaration) := do
  let subtypes := scope.directSubtypes base
  if options.includeBase then return subtypes ++ [← scope.require base]
  return subtypes

/-- The name of every index that a pass over the scope creates, with its type. -/
def indexNames (options : PassOptions) (scope : Scope)
    : Except Error (List (String × String)) := do
  let names ← scope.types.mapM fun type => do
    let operations ← options.plan [type]
    return operations.filterMap fun operation =>
      operation.index?.map fun creation => (type.typeName, creation.name)
  return names.flatten

end PassOptions

end Catalog
