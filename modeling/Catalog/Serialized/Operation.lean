import Catalog.Operation.Basic
import Catalog.Serialized.Basic

/-! The serialized form of operations. -/

namespace Catalog

open Serialized

/-- What an operation creates, as JSON. -/
def Target.toJson : Target → Json
  | collection name => .object [("Collection", .string name)]
  | index name => .object [("Index", .string name)]

namespace CollectionCreation

/-- The creation of a collection as JSON. -/
def toJson (creation : CollectionCreation) : Json :=
  .object [
    ("data", ofOption .object creation.data?),
    ("history_days", ofOption ofDays creation.historyDays?),
    ("name", .string creation.name),
    ("permissions", ofOption .object creation.permissions?),
    ("ttl_days", ofOption ofDays creation.ttlDays?)]

/-- Reads the creation of a collection. By position, all members have to be given. -/
def decode : Decoder CollectionCreation :=
  record [
    { key := "name", required := true
      read := fun value draft => return { draft with name := ← text value } },
    { key := "history_days", positional := true
      read := fun value draft =>
        return { draft with historyDays? := ← optional days value } },
    { key := "ttl_days", positional := true
      read := fun value draft => return { draft with ttlDays? := ← optional days value } },
    { key := "data", positional := true
      read := fun value draft => return { draft with data? := ← optional object value } },
    { key := "permissions", positional := true
      read := fun value draft =>
        return { draft with permissions? := ← optional object value } }]
    { name := "" }

end CollectionCreation

namespace IndexedField

/-- An indexed field as JSON. -/
def toJson : IndexedField → Json
  | data name => .object [("Data", .string name)]
  | reference => .string "Ref"
  | timestamp => .string "Ts"

/-- Reads an indexed field. -/
def decode : Decoder IndexedField := fun value => do
  match ← variant value with
  | ("Data", value) => data <$> withValue text value
  | ("Ref", value) => noValue reference value
  | ("Ts", value) => noValue timestamp value
  | _ => throw .unreadable

end IndexedField

namespace IndexedValue

/-- An indexed value as JSON. -/
def toJson (value : IndexedValue) : Json :=
  .object [("field", value.field.toJson), ("reverse", .bool value.reverse)]

/-- Reads an indexed value. -/
def decode : Decoder IndexedValue :=
  record [
    { key := "field", required := true
      read := fun value draft => return { draft with field := ← IndexedField.decode value } },
    { key := "reverse", required := true
      read := fun value draft => return { draft with reverse := ← flag value } }]
    ⟨.reference, false⟩

end IndexedValue

namespace IndexCreation

/-- The creation of an index as JSON. -/
def toJson (creation : IndexCreation) : Json :=
  .object [
    ("data", ofOption .object creation.data?),
    ("name", .string creation.name),
    ("permissions", ofOption .object creation.permissions?),
    ("serialized", .bool creation.serialized),
    ("source", .string creation.source),
    ("terms", .array (creation.terms.map IndexedField.toJson)),
    ("unique", .bool creation.unique),
    ("values", .array (creation.values.map IndexedValue.toJson))]

/-- Reads the creation of an index. By position, all members have to be given. -/
def decode : Decoder IndexCreation :=
  record [
    { key := "name", required := true
      read := fun value draft => return { draft with name := ← text value } },
    { key := "source", required := true
      read := fun value draft => return { draft with source := ← text value } },
    { key := "terms", required := true
      read := fun value draft =>
        return { draft with terms := ← list IndexedField.decode value } },
    { key := "values", required := true
      read := fun value draft =>
        return { draft with values := ← list IndexedValue.decode value } },
    { key := "unique", required := true
      read := fun value draft => return { draft with unique := ← flag value } },
    { key := "serialized", required := true
      read := fun value draft => return { draft with serialized := ← flag value } },
    { key := "data", positional := true
      read := fun value draft => return { draft with data? := ← optional object value } },
    { key := "permissions", positional := true
      read := fun value draft =>
        return { draft with permissions? := ← optional object value } }]
    ⟨"", "", [], [], false, false, none, none⟩

end IndexCreation

namespace Operation

/-- An operation as JSON. -/
def toJson : Operation → Json
  | createCollection creation => .object [("CollectionCreate", creation.toJson)]
  | createIndex creation => .object [("IndexCreate", creation.toJson)]

/-- Reads an operation. -/
def decode : Decoder Operation := fun value => do
  match ← variant value with
  | ("CollectionCreate", value) =>
    createCollection <$> withValue CollectionCreation.decode value
  | ("IndexCreate", value) => createIndex <$> withValue IndexCreation.decode value
  | _ => throw .unreadable

end Operation

end Catalog
