import Catalog.Manifest.Basic
import Catalog.Manifest.Outline
import Catalog.Record

/-! Reading a manifest from its outline.
Every record but the options refuses keys it does not know. Fields and JSON data can be written
in two ways that are told apart by their content; such a value is taken in as a whole first.
-/

namespace Catalog.Manifest

/-- A reader of outlines. -/
abbrev Decoder (α : Type) := Outline → Except LoadError α

/-- The members of a record that is read into a draft. -/
abbrev Members (δ : Type) := List (Member Outline LoadError δ)

/-- Reads a string. -/
def string : Decoder String
  | .scalar content =>
    match content.text? with
    | some value => .ok value
    | none => .error ((Outline.scalar content).mismatch .string)
  | .labelled value => string value
  | outline => .error (outline.mismatch .string)

/-- Reads a Boolean. -/
def flag : Decoder Bool
  | .scalar content =>
    match content.flag? with
    | some value => .ok value
    | none => .error ((Outline.scalar content).mismatch .boolean)
  | .labelled value => flag value
  | outline => .error (outline.mismatch .boolean)

/-- Reads a number of days. -/
def days : Decoder Days
  | .scalar content =>
    match content.count? with
    | some value =>
      match Number.uint32? value with
      | some days => .ok days
      | none => .error (.misshapen [] (.outOfRange value))
    | none => .error ((Outline.scalar content).mismatch .days)
  | .labelled value => days value
  | outline => .error (outline.mismatch .days)

/-- Reads an optional value. -/
def optional {α : Type} (decode : Decoder α) : Decoder (Option α)
  | .scalar content =>
    match content.presence with
    | .present => some <$> decode (.scalar content)
    | .absent => .ok none
    | .contradictory =>
      .error (.misshapen [] (.mismatch (.mislabelled (content.text?.getD "") .null) .data))
  | outline => some <$> decode outline

/-- Reads the items of a list from a position on. -/
def itemsFrom {α : Type} (decode : Decoder α) (position : Nat)
    : List Outline → Except LoadError (List α)
  | [] => .ok []
  | item :: rest => do
    let value ← (decode item).mapError (.within (.item position))
    let values ← itemsFrom decode (position + 1) rest
    return value :: values

/-- Reads a list. -/
def list {α : Type} (decode : Decoder α) : Decoder (List α)
  | .list _ items => itemsFrom decode 0 items
  | .scalar content =>
    if content.blank then .ok [] else .error ((Outline.scalar content).mismatch .sequence)
  | .labelled value => list decode value
  | outline => .error (outline.mismatch .sequence)

/-- A member whose errors are reported at a part of the record. -/
def memberAt {δ : Type} (segment : Segment) (member : Member Outline LoadError δ)
    : Member Outline LoadError δ :=
  { member with
    read := fun value draft => (member.read value draft).mapError (.within segment) }

/-- The key of an entry of a record. -/
def recordKey : Decoder String
  | .scalar content =>
    match content.text? with
    | some key => .ok key
    | none => .error (((Outline.scalar content).mismatch .key).within .unnamed)
  | .labelled value => recordKey value
  | outline => .error ((outline.mismatch .key).within .unnamed)

/-- How a record treats keys that it does not know. -/
inductive OtherKeys
  | refused
  | passedOver

/-- How faults of a record with the given keys are reported. -/
def recordFaults (known : List String) (others : OtherKeys)
    : RecordFaults Outline LoadError where
  unknown key value :=
    match others with
    | .refused => .error (.misshapen [.key key] (.unknownKey key known))
    | .passedOver => if value.isComplete then .ok () else .error .malformed
  repeated key := .misshapen [] (.repeatedKey key)
  missing key := .misshapen [] (.missingKey key)

/-- Reads a record by its keys, or by position from a list of its members. -/
def record {δ : Type} (name : String) (members : Members δ) (draft : δ)
    (others : OtherKeys := .refused) : Decoder δ
  | .map entries => readEntries entries
  | .list true items => do
    let named := members.mapIdx fun position => memberAt (.item position)
    let tooFew (count : Nat) : LoadError :=
      .misshapen [] (.tooFewItems count name members.length)
    match ← Member.readItems tooFew 0 draft named items with
    | (value, []) => return value
    | (_, _ :: _) => throw .malformed
  | .scalar content =>
    if content.blank then readEntries []
    else .error ((Outline.scalar content).mismatch (.record name))
  | .labelled value => record name members draft others value
  | outline => .error (outline.mismatch (.record name))
where
  /-- Reads the members under their keys. -/
  readEntries (entries : List (Outline × Outline)) : Except LoadError δ :=
    let named := members.map fun member => memberAt (.key member.key) member
    Member.readEntries named (recordFaults (members.map Member.key) others) [] draft
      (entries.map fun (key, value) => (recordKey key, value))

mutual

/-- The JSON value that an outline has; there is none when a key is not a string. Floats that
are not finite become null.
-/
def json? : Outline → Option Json
  | .scalar content =>
    match content.shape with
    | .null => some .null
    | .bool value => some (.bool value)
    | .integer value => (Json.Number.ofInt? value).map .number
    | .float value => some ((Json.Number.ofFloat? value).elim .null .number)
    | .string value => some (.string value)
    | _ => none
  | .list _ items => (jsonItems? items).map .array
  | .map entries => (jsonEntries? entries).map (.object ∘ Entries.ofList)
  | _ => none

/-- The values of the items of a list. -/
def jsonItems? : List Outline → Option (List Json)
  | [] => some []
  | item :: rest => do
    let value ← json? item
    let values ← jsonItems? rest
    return value :: values

/-- The entries of a map with their values. -/
def jsonEntries? : List (Outline × Outline) → Option (List (String × Json))
  | [] => some []
  | (key, item) :: rest => do
    let key ← key.string?
    let value ← json? item
    let values ← jsonEntries? rest
    return (key, value) :: values

end

/-- Reads JSON data: a map is an object, and a string is the text of one. -/
def dataEntry : Decoder DataEntry := fun outline => do
  outline.takeIn
  match outline.string?, json? outline with
  | some text, _ => return .text text
  | none, some (.object object) => return .object object
  | _, _ => throw (.misshapen [] (.noVariant "JsonManifest"))

/-- The part of an aliased field that a key names, by its name or by its position. -/
inductive FieldPart
  | member
  | storedName
  | other

/-- The part of an aliased field that a key stands for, if it can be a key at all. -/
def fieldPart? : Outline → Option FieldPart
  | .scalar content =>
    match content.shape with
    | .string "member" | .integer 0 => some .member
    | .string "alias" | .integer 1 => some .storedName
    | .string _ => some .other
    | .integer value => if 0 ≤ value then some .other else none
    | _ => none
  | _ => none

/-- The member and alias that the entries of a map give, each of them once. -/
def aliasedParts? (member? alias? : Option String)
    : List (Outline × Outline) → Option (String × String)
  | [] => do return (← member?, ← alias?)
  | (key, value) :: rest => do
    match ← fieldPart? key, member?, alias? with
    | .member, none, _ => aliasedParts? (some (← value.string?)) alias? rest
    | .storedName, _, none => aliasedParts? member? (some (← value.string?)) rest
    | .other, _, _ => aliasedParts? member? alias? rest
    | _, _, _ => none

/-- Reads a field: a string is its member, and a map gives its member and alias. -/
def field : Decoder Field := fun outline => do
  outline.takeIn
  let aliased? :=
    match outline with
    | .map entries => aliasedParts? none none entries
    | _ => none
  match outline.string?, aliased? with
  | some member, _ => return ⟨member, none⟩
  | none, some (member, alias_) => return ⟨member, some alias_⟩
  | none, none => throw (.misshapen [] (.noVariant "FieldManifest"))

/-- Reads what is said about a collection. -/
def collectionEntry : Decoder CollectionEntry :=
  record "CollectionManifest" [
    { key := "name"
      read := fun value draft => return { draft with name? := ← optional string value } },
    { key := "ttl_days"
      read := fun value draft => return { draft with ttlDays? := ← optional days value } },
    { key := "history_days"
      read := fun value draft =>
        return { draft with historyDays? := ← optional days value } },
    { key := "no_history"
      read := fun value draft => return { draft with noHistory := ← flag value } },
    { key := "data"
      read := fun value draft => return { draft with data? := ← optional dataEntry value } },
    { key := "permissions"
      read := fun value draft =>
        return { draft with permissions? := ← optional dataEntry value } }]
    {}

/-- Reads what is said about an index. -/
def indexEntry : Decoder IndexEntry :=
  record "IndexManifest" [
    { key := "name"
      read := fun value draft => return { draft with name? := ← optional string value } },
    { key := "terms"
      read := fun value draft => return { draft with terms := ← list string value } },
    { key := "values"
      read := fun value draft => return { draft with values := ← list string value } },
    { key := "unique"
      read := fun value draft => return { draft with unique := ← flag value } },
    { key := "serialized"
      read := fun value draft => return { draft with serialized := ← flag value } },
    { key := "data"
      read := fun value draft => return { draft with data? := ← optional dataEntry value } },
    { key := "permissions"
      read := fun value draft =>
        return { draft with permissions? := ← optional dataEntry value } }]
    {}

/-- Reads what is said about a type. -/
def typeEntry : Decoder TypeEntry :=
  record "TypeManifest" [
    { key := "name", required := true
      read := fun value draft => return { draft with name := ← string value } },
    { key := "base"
      read := fun value draft => return { draft with base? := ← optional string value } },
    { key := "fields"
      read := fun value draft => return { draft with fields := ← list field value } },
    { key := "collection"
      read := fun value draft =>
        return { draft with collection? := ← optional collectionEntry value } },
    { key := "indexes"
      read := fun value draft => return { draft with indexes := ← list indexEntry value } }]
    { name := "" }

/-- Reads the options of a manifest; keys that are not options are passed over. -/
def passOptions : Decoder PassOptions :=
  record "CompileOptions" [
    { key := "include_base"
      read := fun value draft => return { draft with includeBase := ← flag value } },
    { key := "skip_undeclared"
      read := fun value draft => return { draft with skipUndeclared := ← flag value } }]
    {} .passedOver

/-- Reads a manifest. -/
def decode : Decoder Manifest :=
  record "SchemaManifest" [
    { key := "options"
      read := fun value draft => return { draft with options := ← passOptions value } },
    { key := "types", required := true
      read := fun value draft => return { draft with types := ← list typeEntry value } }]
    {}

end Catalog.Manifest
