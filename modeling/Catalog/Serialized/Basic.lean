import Catalog.Declaration.Collection
import Catalog.Json.Reading
import Catalog.Record

/-! Reading the parts of a serialized declaration from JSON.
Whatever has the wrong shape is unreadable; only the faults of a field map are told apart.
-/

namespace Catalog.Serialized

open Catalog.Json (Reading)

/-- Why a serialized value cannot be read. -/
inductive DecodeError
  | unreadable
  | invalidField (fault : FieldFault)
  deriving DecidableEq, Repr

/-- The text of a refused field map; an unreadable value has none. -/
def DecodeError.message? : DecodeError → Option String
  | unreadable => none
  | invalidField fault => some fault.message

/-- A reader of serialized values. -/
abbrev Decoder (α : Type) := Reading → Except DecodeError α

/-- Reads a string. -/
def text : Decoder String
  | .string (some value) => .ok value
  | _ => .error .unreadable

/-- Reads a Boolean. -/
def flag : Decoder Bool
  | .bool value => .ok value
  | _ => .error .unreadable

/-- Reads an integer. -/
def integer : Decoder Int
  | .number (some (.int value _)) => .ok value
  | _ => .error .unreadable

/-- Reads a number of days. -/
def days : Decoder Days := fun reading => do
  match Number.uint32? (← integer reading) with
  | some value => return value
  | none => throw .unreadable

/-- Reads a JSON object. -/
def object : Decoder JsonObject := fun reading =>
  match reading.value? with
  | some (.object entries) => .ok entries
  | _ => .error .unreadable

/-- Reads an optional value; null stands for none. -/
def optional {α : Type} (decode : Decoder α) : Decoder (Option α)
  | .null => .ok none
  | reading => some <$> decode reading

/-- Reads an array, item by item. -/
def list {α : Type} (decode : Decoder α) : Decoder (List α)
  | .array items => items.mapM decode
  | _ => .error .unreadable

/-- Members of other keys are passed over, as long as they can be read at all. -/
def faults : RecordFaults Reading DecodeError where
  unknown _ value := if value.isComplete then .ok () else .error .unreadable
  repeated _ := .unreadable
  missing _ := .unreadable

/-- Reads a record, from an object by keys or from an array by position. -/
def record {δ : Type} (members : List (Member Reading DecodeError δ)) (draft : δ) : Decoder δ
  | .object entries =>
    Member.readEntries members faults [] draft <|
      entries.map fun (key, value) =>
        (match key with
          | some key => .ok key
          | none => .error .unreadable, value)
  | .array items => do
    match ← Member.readItems (fun _ => .unreadable) 0 draft members items with
    | (value, []) => return value
    | (_, _ :: _) => throw .unreadable
  | _ => .error .unreadable

/-- A variant of a choice with the value it carries, if one is given. A choice is written as the
variant's name, or as an object whose only key is that name.
-/
def variant : Decoder (String × Option Reading)
  | .string (some name) => .ok (name, none)
  | .object [(some name, value)] => .ok (name, some value)
  | _ => .error .unreadable

/-- Reads what a variant without a value carries: nothing, or null. -/
def noValue {α : Type} (result : α) : Option Reading → Except DecodeError α
  | none | some .null => .ok result
  | some _ => .error .unreadable

/-- Reads the value that a variant carries. -/
def withValue {α : Type} (decode : Decoder α) : Option Reading → Except DecodeError α
  | some value => decode value
  | none => .error .unreadable

/-- An optional value, or null. -/
def ofOption {α : Type} (encode : α → Json) : Option α → Json
  | some value => encode value
  | none => .null

/-- A number of days as a JSON number. -/
def ofDays (value : Days) : Json :=
  .number (.int value.toNat (by have := value.toNat_lt; omega))

end Catalog.Serialized
