import Catalog.Compilation
import Catalog.Serialized.Basic

/-! The serialized form of declarations.
Every member is written; on reading, members with a default may be left out. A field map is
the list of its fields, which are inserted one by one.
-/

namespace Catalog

open Serialized

namespace Field

/-- A field as JSON. -/
def toJson (field : Field) : Json :=
  .object [("alias", ofOption .string field.alias?), ("member", .string field.member)]

/-- Reads a field. -/
def decode : Decoder Field :=
  record [
    { key := "member", required := true
      read := fun value draft => return { draft with member := ← text value } },
    { key := "alias"
      read := fun value draft => return { draft with alias? := ← optional text value } }]
    ⟨"", none⟩

end Field

namespace FieldMap

/-- A field map as JSON. -/
def toJson (map : FieldMap) : Json :=
  .array (map.toList.map Field.toJson)

/-- Reads a field map. -/
def decode : Decoder FieldMap := fun value => do
  let fields ← list Field.decode value
  match ofList fields with
  | .ok map => return map
  | .error (.invalidField fault) => throw (.invalidField fault)
  | .error _ => throw .unreadable

end FieldMap

namespace Element

/-- An element as JSON. -/
def toJson : Element → Json
  | field member => .object [("Field", .string member)]
  | selfReference => .string "SelfRef"
  | timestamp => .string "Timestamp"

/-- Reads an element. -/
def decode : Decoder Element := fun value => do
  match ← variant value with
  | ("Field", value) => field <$> withValue text value
  | ("SelfRef", value) => noValue selfReference value
  | ("Timestamp", value) => noValue timestamp value
  | _ => throw .unreadable

end Element

namespace SortOrder

/-- A sort order as JSON. -/
def toJson : SortOrder → Json
  | default => .string "Default"
  | reverse => .string "Reverse"

/-- Reads a sort order. -/
def decode : Decoder SortOrder := fun value => do
  match ← variant value with
  | ("Default", value) => noValue default value
  | ("Reverse", value) => noValue reverse value
  | _ => throw .unreadable

end SortOrder

namespace SortedElement

/-- A value of an index as JSON. -/
def toJson (value : SortedElement) : Json :=
  .object [("ordering", value.order.toJson), ("term", value.element.toJson)]

/-- Reads a value of an index. -/
def decode : Decoder SortedElement :=
  record [
    { key := "term", required := true
      read := fun value draft => return { draft with element := ← Element.decode value } },
    { key := "ordering"
      read := fun value draft => return { draft with order := ← SortOrder.decode value } }]
    { element := .selfReference }

end SortedElement

namespace CollectionDeclaration

/-- A declared collection as JSON. -/
def toJson (collection : CollectionDeclaration) : Json :=
  .object [
    ("data", ofOption .object collection.data?),
    ("history_days", ofOption ofDays collection.historyDays?),
    ("name", .string collection.name),
    ("permissions", ofOption .object collection.permissions?),
    ("ttl_days", ofOption ofDays collection.ttlDays?)]

/-- Reads a declared collection. -/
def decode : Decoder CollectionDeclaration :=
  record [
    { key := "name", required := true
      read := fun value draft => return { draft with name := ← text value } },
    { key := "ttl_days"
      read := fun value draft => return { draft with ttlDays? := ← optional days value } },
    { key := "history_days"
      read := fun value draft =>
        return { draft with historyDays? := ← optional days value } },
    { key := "data"
      read := fun value draft => return { draft with data? := ← optional object value } },
    { key := "permissions"
      read := fun value draft =>
        return { draft with permissions? := ← optional object value } }]
    { name := "" }

end CollectionDeclaration

namespace IndexDeclaration

/-- A declared index as JSON. -/
def toJson (index : IndexDeclaration) : Json :=
  .object [
    ("data", ofOption .object index.data?),
    ("name", ofOption .string index.name?),
    ("permissions", ofOption .object index.permissions?),
    ("serialized", .bool index.serialized),
    ("terms", .array (index.terms.map Element.toJson)),
    ("unique", .bool index.unique),
    ("values", .array (index.values.map SortedElement.toJson))]

/-- Reads a declared index. -/
def decode : Decoder IndexDeclaration :=
  record [
    { key := "name"
      read := fun value draft => return { draft with name? := ← optional text value } },
    { key := "terms"
      read := fun value draft => return { draft with terms := ← list Element.decode value } },
    { key := "values"
      read := fun value draft =>
        return { draft with values := ← list SortedElement.decode value } },
    { key := "unique"
      read := fun value draft => return { draft with unique := ← flag value } },
    { key := "serialized"
      read := fun value draft => return { draft with serialized := ← flag value } },
    { key := "data"
      read := fun value draft => return { draft with data? := ← optional object value } },
    { key := "permissions"
      read := fun value draft =>
        return { draft with permissions? := ← optional object value } }]
    {}

end IndexDeclaration

namespace TypeDeclaration

/-- A declared type as JSON. -/
def toJson (type : TypeDeclaration) : Json :=
  .object [
    ("base", ofOption .string type.base?),
    ("collection", ofOption CollectionDeclaration.toJson type.collection?),
    ("fields", type.fields.toJson),
    ("indexes", .array (type.indexes.map IndexDeclaration.toJson)),
    ("type_name", .string type.typeName)]

/-- Reads a declared type. -/
def decode : Decoder TypeDeclaration :=
  record [
    { key := "type_name", required := true
      read := fun value draft => return { draft with typeName := ← text value } },
    { key := "base"
      read := fun value draft => return { draft with base? := ← optional text value } },
    { key := "fields"
      read := fun value draft => return { draft with fields := ← FieldMap.decode value } },
    { key := "collection"
      read := fun value draft =>
        return { draft with collection? := ← optional CollectionDeclaration.decode value } },
    { key := "indexes"
      read := fun value draft =>
        return { draft with indexes := ← list IndexDeclaration.decode value } }]
    { typeName := "" }

/-- Reads a declared type from a JSON text that holds nothing else. -/
def parse (text : String) : Except DecodeError TypeDeclaration := do
  let (reading, ended) := Json.Reading.ofText text
  let type ← decode reading
  if ended then return type
  throw .unreadable

end TypeDeclaration

namespace PassOptions

/-- The options of a pass as JSON. -/
def toJson (options : PassOptions) : Json :=
  .object [("include_base", .bool options.includeBase),
    ("skip_undeclared", .bool options.skipUndeclared)]

/-- Reads the options of a pass. -/
def decode : Decoder PassOptions :=
  record [
    { key := "include_base"
      read := fun value draft => return { draft with includeBase := ← flag value } },
    { key := "skip_undeclared"
      read := fun value draft => return { draft with skipUndeclared := ← flag value } }]
    {}

end PassOptions

end Catalog
