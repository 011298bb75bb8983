import Catalog.Compilation
import Catalog.Expr.Data

/-! Manifests: the declared types of a schema as plain data.
Elements of an index are written as texts. A text is the member of a field, unless it is one of
the markers `@ref` and `@ts` for the own reference and the timestamp, or, among values,
`@reverse` and `@default` for the order of the element before.
-/

namespace Catalog

namespace Manifest

/-- JSON data, given as an object or as the text of one. -/
inductive DataEntry
  | object (object : JsonObject)
  | text (text : String)
  deriving DecidableEq

/-- What a manifest says about a collection. -/
structure CollectionEntry where
  /-- The type's name stands in for a name that is not given. -/
  name? : Option String := none
  ttlDays? : Option Days := none
  historyDays? : Option Days := none
  /-- Leave the retention of history to the database. -/
  noHistory : Bool := false
  data? : Option DataEntry := none
  permissions? : Option DataEntry := none
  deriving DecidableEq

/-- What a manifest says about an index. -/
structure IndexEntry where
  name? : Option String := none
  terms : List String := []
  values : List String := []
  unique : Bool := false
  serialized : Bool := true
  data? : Option DataEntry := none
  permissions? : Option DataEntry := none
  deriving DecidableEq

/-- What a manifest says about a type. -/
structure TypeEntry where
  name : String
  base? : Option String := none
  fields : List Field := []
  collection? : Option CollectionEntry := none
  indexes : List IndexEntry := []
  deriving DecidableEq

end Manifest

/-- The types of a schema, with options for compiling them. -/
structure Manifest where
  options : PassOptions := {}
  types : List Manifest.TypeEntry := []
  deriving DecidableEq

namespace Manifest

/-- The object that is given for a property. -/
def DataEntry.toObject (property : String) : DataEntry → Except Error JsonObject
  | .object entries => .ok entries
  | .text written => JsonObject.parse property written

/-- The meaning of a text among the values of an index. -/
def flatItem (text : String) : Except Error FlatItem :=
  match text with
  | "@ref" => .ok (.element .selfReference)
  | "@ts" => .ok (.element .timestamp)
  | "@reverse" => .ok (.order .reverse)
  | "@default" => .ok (.order .default)
  | text =>
    if text.toList.head? = some '@' then .error (.unknownMarker text)
    else .ok (.element (.field text))

/-- The meaning of a text among the terms of an index, where no order may stand. -/
def term (text : String) : Except Error Element := do
  match ← flatItem text with
  | .element element => return element
  | .order _ => throw (.orderOutsideValues text)

/-- The declared collection of a type. -/
def CollectionEntry.toDeclaration (typeName : String) (entry : CollectionEntry)
    : Except Error CollectionDeclaration := do
  if entry.noHistory ∧ entry.historyDays?.isSome then throw .historyConflict
  let data? ← entry.data?.mapM (DataEntry.toObject "data")
  let permissions? ← entry.permissions?.mapM (DataEntry.toObject "permissions")
  return {
    name := entry.name?.getD typeName
    ttlDays? := entry.ttlDays?
    historyDays? :=
      if entry.noHistory then none else some (entry.historyDays?.getD defaultHistoryDays)
    data?, permissions? }

/-- The declared index: first its terms, then its values, then its data. -/
def IndexEntry.toDeclaration (entry : IndexEntry) : Except Error IndexDeclaration := do
  let terms ← entry.terms.mapM term
  let values ← SortedElement.ofFlat (← entry.values.mapM flatItem)
  let data? ← entry.data?.mapM (DataEntry.toObject "data")
  let permissions? ← entry.permissions?.mapM (DataEntry.toObject "permissions")
  return {
    name? := entry.name?
    terms, values
    unique := entry.unique
    serialized := entry.serialized
    data?, permissions? }

/-- The declared indexes from a position on; an error is reported with its index's position. -/
def indexDeclarations (position : Nat)
    : List IndexEntry → Except Error (List IndexDeclaration)
  | [] => .ok []
  | entry :: rest => do
    let index ← entry.toDeclaration.mapError (.within (.index position))
    let indexes ← indexDeclarations (position + 1) rest
    return index :: indexes

/-- The declared type: its fields, its collection, then its indexes. -/
def TypeEntry.toDeclaration (entry : TypeEntry) : Except Error TypeDeclaration := do
  let fields ← FieldMap.ofList entry.fields
  let collection? ← entry.collection?.mapM (CollectionEntry.toDeclaration entry.name)
  let indexes ← indexDeclarations 0 entry.indexes
  return { typeName := entry.name, base? := entry.base?, fields, collection?, indexes }

/-- Registers the declaration of a type. -/
def register (scope : Scope) (entry : TypeEntry) : Except Error Scope :=
  scope.register entry.name entry.toDeclaration

/-- The scope of all types, registered in the order of the manifest. -/
def toScope (manifest : Manifest) : Except Error Scope :=
  manifest.types.foldlM register {}

end Manifest

end Catalog
