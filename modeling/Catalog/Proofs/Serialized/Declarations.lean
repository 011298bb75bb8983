import Catalog.Proofs.Declaration.Acceptance
import Catalog.Proofs.Serialized.Records
import Catalog.Serialized.Declaration

/-! Declarations survive their serialized form.
Each member of a record is written under its key and read back from there; the data of a declaration
is read back as long as its objects are in key order, which all data that is read are. The fields of
a type that is read are those that are given for it, and they can stand together.
-/

namespace Catalog

open Json (Reading)
open Outcome Serialized

-----------------------------------------------------------------------------------------
-- Values of members
-----------------------------------------------------------------------------------------

namespace Serialized

/-- A number of days is read back, as it fits its word. -/
theorem days_ofDays (value : Days) : days (ofDays value).toReading = .ok value := by
  have held : Number.uint32? value.toNat = some value := Number.uint32?_eq_some_iff.mpr rfl
  exact bind_eq_ok.mpr ⟨value.toNat, rfl, by rw [held]; rfl⟩

/-- An object in key order is read back. -/
theorem object_toReading {entries : JsonObject} (inOrder : (Json.object entries).InKeyOrder)
    : object (Json.object entries).toReading = .ok entries := by
  rw [object, Json.value?_toReading _ inOrder]

/-- The objects that are read are in key order. -/
theorem inKeyOrder_of_object {reading : Reading} {entries : JsonObject}
    (read : object reading = .ok entries)
    : (Json.object entries).InKeyOrder := by
  unfold object at read
  split at read
  case h_1 found => exact Except.ok.inj read ▸ Json.inKeyOrder_of_value? reading _ found
  case h_2 => nomatch read

variable {α : Type} {decode : Decoder α} {encode : α → Json}

/-- An optional value is read back when it is not written as null. -/
theorem optional_ofOption (notNull : ∀ value, encode value ≠ .null) {value? : Option α}
    (each : ∀ value ∈ value?, decode (encode value).toReading = .ok value)
    : optional decode (ofOption encode value?).toReading = .ok value? := by
  cases value? with
  | none => rfl
  | some value =>
      have read := each value rfl
      rw [ofOption]
      cases written : encode value with
      | null => exact (notNull value written).elim
      | bool _ | number _ | string _ | array _ | object _ =>
          rw [written] at read
          exact congrArg (Except.map some) read

/-- The value of an optional one that is read has been read itself. -/
theorem decode_of_optional {reading : Reading} {value? : Option α}
    (read : optional decode reading = .ok value?)
    : ∀ value ∈ value?, decode reading = .ok value := by
  intro value present
  obtain rfl : value? = some value := present
  cases reading with
  | null => nomatch read
  | malformed | bool _ | number _ | string _ | array _ | object _ | deep _ =>
      obtain ⟨found, read, same⟩ := map_eq_ok.mp read
      exact Option.some.inj same ▸ read

/-- An optional object that is read is in key order. -/
theorem inKeyOrder_of_optional {reading : Reading} {value? : Option JsonObject}
    (read : optional object reading = .ok value?)
    : ∀ entries ∈ value?, (Json.object entries).InKeyOrder :=
  fun entries present => inKeyOrder_of_object (decode_of_optional read entries present)

/-- Everything in a list that is read was read from an item. -/
theorem decode_of_list {reading : Reading} {values : List α}
    (read : list decode reading = .ok values)
    : ∀ value ∈ values, ∃ item, decode item = .ok value := by
  intro value member
  cases reading with
  | array items =>
      obtain ⟨item, _, read⟩ := exists_of_mem_mapM read value member
      exact ⟨item, read⟩
  | malformed | null | bool _ | number _ | string _ | object _ | deep _ => nomatch read

/-- A list is read back when its items are. -/
theorem list_map (values : List α)
    (each : ∀ value ∈ values, decode (encode value).toReading = .ok value)
    : list decode (Json.array (values.map encode)).toReading = .ok values := by
  rw [Json.toReading, list, Json.toReadings_eq_map, List.map_map, mapM_eq_ok,
    List.forall₂_map_left_iff, List.forall₂_same]
  exact each

theorem optional_text (value? : Option String)
    : optional text (ofOption .string value?).toReading = .ok value? :=
  optional_ofOption (by simp) fun _ _ => rfl

theorem optional_days (value? : Option Days)
    : optional days (ofOption ofDays value?).toReading = .ok value? :=
  optional_ofOption (by simp [ofDays]) fun value _ => days_ofDays value

theorem optional_object {value? : Option JsonObject}
    (inOrder : ∀ object ∈ value?, (Json.object object).InKeyOrder)
    : optional object (ofOption .object value?).toReading = .ok value? :=
  optional_ofOption (by simp) fun value present => object_toReading (inOrder value present)

end Serialized

-----------------------------------------------------------------------------------------
-- Reading back what was written
-----------------------------------------------------------------------------------------

/-- A field is read back, member by member. -/
theorem Field.decode_toJson (field : Field) : decode field.toJson.toReading = .ok field := by
  refine Member.readEntries_member rfl rfl (bind_eq_ok.mpr ⟨_, optional_text _, rfl⟩) ?_
  refine Member.readEntries_member rfl rfl rfl ?_
  exact Member.readEntries_nil_eq_ok.mpr ⟨by decide, rfl⟩

/-- A field map is read back: its fields are, and they can stand together. -/
theorem FieldMap.decode_toJson (map : FieldMap) : decode map.toJson.toReading = .ok map := by
  have fields : list Field.decode map.toJson.toReading = .ok map.toList :=
    list_map map.toList fun field _ => field.decode_toJson
  have together : ofList map.toList = .ok map := ofList_eq_ok.mpr rfl
  rw [decode, fields, ok_bind, together]
  rfl

theorem Element.decode_toJson (element : Element)
    : decode element.toJson.toReading = .ok element := by
  cases element <;> rfl

theorem SortOrder.decode_toJson (order : SortOrder)
    : decode order.toJson.toReading = .ok order := by
  cases order <;> rfl

/-- A value of an index is read back, member by member. -/
theorem SortedElement.decode_toJson (value : SortedElement)
    : decode value.toJson.toReading = .ok value := by
  refine Member.readEntries_member rfl rfl
    (bind_eq_ok.mpr ⟨_, value.order.decode_toJson, rfl⟩) ?_
  refine Member.readEntries_member rfl rfl
    (bind_eq_ok.mpr ⟨_, value.element.decode_toJson, rfl⟩) ?_
  exact Member.readEntries_nil_eq_ok.mpr ⟨by decide, rfl⟩

/-- The data of a declared collection is in key order. -/
structure CollectionDeclaration.InKeyOrder (collection : CollectionDeclaration) : Prop where
  data : ∀ object ∈ collection.data?, (Json.object object).InKeyOrder
  permissions : ∀ object ∈ collection.permissions?, (Json.object object).InKeyOrder

/-- The data of a declared index is in key order. -/
structure IndexDeclaration.InKeyOrder (index : IndexDeclaration) : Prop where
  data : ∀ object ∈ index.data?, (Json.object object).InKeyOrder
  permissions : ∀ object ∈ index.permissions?, (Json.object object).InKeyOrder

/-- All data of a declared type is in key order. -/
structure TypeDeclaration.InKeyOrder (type : TypeDeclaration) : Prop where
  collection : ∀ collection ∈ type.collection?, collection.InKeyOrder
  indexes : ∀ index ∈ type.indexes, index.InKeyOrder

/-- A declared collection is read back, member by member. -/
theorem CollectionDeclaration.decode_toJson {collection : CollectionDeclaration}
    (inOrder : collection.InKeyOrder)
    : decode collection.toJson.toReading = .ok collection := by
  have data := optional_object inOrder.data
  have permissions := optional_object inOrder.permissions
  refine Member.readEntries_member rfl rfl (bind_eq_ok.mpr ⟨_, data, rfl⟩) ?_
  refine Member.readEntries_member rfl rfl (bind_eq_ok.mpr ⟨_, optional_days _, rfl⟩) ?_
  refine Member.readEntries_member rfl rfl rfl ?_
  refine Member.readEntries_member rfl rfl (bind_eq_ok.mpr ⟨_, permissions, rfl⟩) ?_
  refine Member.readEntries_member rfl rfl (bind_eq_ok.mpr ⟨_, optional_days _, rfl⟩) ?_
  exact Member.readEntries_nil_eq_ok.mpr ⟨by decide, rfl⟩

/-- A declared index is read back, member by member. -/
theorem IndexDeclaration.decode_toJson {index : IndexDeclaration} (inOrder : index.InKeyOrder)
    : decode index.toJson.toReading = .ok index := by
  have data := optional_object inOrder.data
  have permissions := optional_object inOrder.permissions
  have terms := list_map index.terms fun term _ => term.decode_toJson
  have values := list_map index.values fun value _ => value.decode_toJson
  refine Member.readEntries_member rfl rfl (bind_eq_ok.mpr ⟨_, data, rfl⟩) ?_
  refine Member.readEntries_member rfl rfl (bind_eq_ok.mpr ⟨_, optional_text _, rfl⟩) ?_
  refine Member.readEntries_member rfl rfl (bind_eq_ok.mpr ⟨_, permissions, rfl⟩) ?_
  refine Member.readEntries_member rfl rfl rfl ?_
  refine Member.readEntries_member rfl rfl (bind_eq_ok.mpr ⟨_, terms, rfl⟩) ?_
  refine Member.readEntries_member rfl rfl rfl ?_
  refine Member.readEntries_member rfl rfl (bind_eq_ok.mpr ⟨_, values, rfl⟩) ?_
  exact Member.readEntries_nil_eq_ok.mpr ⟨by decide, rfl⟩

/-- A declared type is read back, member by member. -/
theorem TypeDeclaration.decode_toJson {type : TypeDeclaration} (inOrder : type.InKeyOrder)
    : decode type.toJson.toReading = .ok type := by
  have collection
      : optional CollectionDeclaration.decode
          (ofOption CollectionDeclaration.toJson type.collection?).toReading
        = .ok type.collection? :=
    optional_ofOption (by simp [CollectionDeclaration.toJson]) fun collection declared =>
      CollectionDeclaration.decode_toJson (inOrder.collection collection declared)
  have indexes := list_map type.indexes fun index declared =>
    IndexDeclaration.decode_toJson (inOrder.indexes index declared)
  refine Member.readEntries_member rfl rfl (bind_eq_ok.mpr ⟨_, optional_text _, rfl⟩) ?_
  refine Member.readEntries_member rfl rfl (bind_eq_ok.mpr ⟨_, collection, rfl⟩) ?_
  refine Member.readEntries_member rfl rfl (bind_eq_ok.mpr ⟨_, type.fields.decode_toJson, rfl⟩) ?_
  refine Member.readEntries_member rfl rfl (bind_eq_ok.mpr ⟨_, indexes, rfl⟩) ?_
  refine Member.readEntries_member rfl rfl rfl ?_
  exact Member.readEntries_nil_eq_ok.mpr ⟨by decide, rfl⟩

-----------------------------------------------------------------------------------------
-- What is read
-----------------------------------------------------------------------------------------

/-- The data of a declared collection that is read is in key order, as each member leaves it so. -/
theorem CollectionDeclaration.inKeyOrder_of_decode {reading : Reading}
    {collection : CollectionDeclaration} (read : decode reading = .ok collection)
    : collection.InKeyOrder := by
  refine record_preserves ?_ ?_ read
  · simp only [List.forall_mem_cons, bind_eq_ok, pure_eq_ok]
    refine ⟨?_, ?_, ?_, ?_, ?_, List.forall_mem_nil _⟩
    all_goals
      rintro value before after ⟨found, read, rfl⟩ ⟨data, permissions⟩
    -- All but two of the members are no data.
    all_goals try exact ⟨data, permissions⟩
    · exact ⟨inKeyOrder_of_optional read, permissions⟩
    · exact ⟨data, inKeyOrder_of_optional read⟩
  · constructor <;> simp

/-- The data of a declared index that is read is in key order, as each member leaves it so. -/
theorem IndexDeclaration.inKeyOrder_of_decode {reading : Reading} {index : IndexDeclaration}
    (read : decode reading = .ok index)
    : index.InKeyOrder := by
  refine record_preserves ?_ ?_ read
  · simp only [List.forall_mem_cons, bind_eq_ok, pure_eq_ok]
    refine ⟨?_, ?_, ?_, ?_, ?_, ?_, ?_, List.forall_mem_nil _⟩
    all_goals
      rintro value before after ⟨found, read, rfl⟩ ⟨data, permissions⟩
    all_goals try exact ⟨data, permissions⟩
    · exact ⟨inKeyOrder_of_optional read, permissions⟩
    · exact ⟨data, inKeyOrder_of_optional read⟩
  · constructor <;> simp

/-- All data of a declared type that is read is in key order. -/
theorem TypeDeclaration.inKeyOrder_of_decode {reading : Reading} {type : TypeDeclaration}
    (read : decode reading = .ok type)
    : type.InKeyOrder := by
  refine record_preserves ?_ ?_ read
  · simp only [List.forall_mem_cons, bind_eq_ok, pure_eq_ok]
    refine ⟨?_, ?_, ?_, ?_, ?_, List.forall_mem_nil _⟩
    all_goals
      rintro value before after ⟨found, read, rfl⟩ ⟨collection, indexes⟩
    all_goals try exact ⟨collection, indexes⟩
    · refine ⟨fun declared present => ?_, indexes⟩
      exact CollectionDeclaration.inKeyOrder_of_decode (decode_of_optional read declared present)
    · refine ⟨collection, fun index member => ?_⟩
      obtain ⟨item, read⟩ := decode_of_list read index member
      exact IndexDeclaration.inKeyOrder_of_decode read
  · constructor <;> simp

/-- A field map is read from a list of fields, which it holds in their order. -/
theorem FieldMap.toList_of_decode {reading : Reading} {map : FieldMap}
    (read : decode reading = .ok map)
    : list Field.decode reading = .ok map.toList := by
  obtain ⟨fields, listed, read⟩ := bind_eq_ok.mp read
  split at read
  case h_1 built together =>
    cases read
    rw [listed, ofList_eq_ok.mp together]
  all_goals nomatch read

/-- The fields of a type that is read are the ones that are given for it; without any it has none.
-/
theorem TypeDeclaration.fields_of_decode {reading : Reading} {type : TypeDeclaration}
    (read : decode reading = .ok type)
    : (∀ value, Gives "fields" 2 value reading → list Field.decode value = .ok type.fields.toList)
      ∧ ((∀ value, ¬Gives "fields" 2 value reading) → type.fields = .empty) := by
  have determined := record_determines "fields" 2 fields
    (fun value map => FieldMap.decode value = .ok map) ⟨by simp, ?_, ?_⟩ rfl (by decide) read
  · obtain ⟨given, missing⟩ := determined
    exact ⟨fun value gives => FieldMap.toList_of_decode (given value gives), missing⟩
  · simp only [List.forall_mem_cons, bind_eq_ok, pure_eq_ok]
    refine ⟨?_, ?_, ?_, ?_, ?_, List.forall_mem_nil _⟩
    all_goals
      intro named
    all_goals try exact absurd named (by decide)
    rintro value before after ⟨map, read, rfl⟩
    exact read
  · simp only [List.forall_mem_cons, bind_eq_ok, pure_eq_ok]
    refine ⟨?_, ?_, ?_, ?_, ?_, List.forall_mem_nil _⟩
    all_goals
      rintro other value before after ⟨found, _, rfl⟩
    all_goals try rfl
    exact (other rfl).elim

/-- Every declared type whose data is in key order is read back from its serialized form. A type
that is read from any JSON has its data in key order, and its fields are those that are given for
it, all of which can stand together.
-/
theorem TypeDeclaration.serialized_recoverable
    : (∀ type : TypeDeclaration, type.InKeyOrder → decode type.toJson.toReading = .ok type)
      ∧ ∀ reading type,
          decode reading = .ok type
            → type.InKeyOrder
              ∧ FieldMap.Valid type.fields.toList
              ∧ (∀ value, Gives "fields" 2 value reading
                  → list Field.decode value = .ok type.fields.toList)
              ∧ ((∀ value, ¬Gives "fields" 2 value reading) → type.fields = .empty) := by
  refine ⟨fun _ => decode_toJson, fun reading type read => ?_⟩
  exact ⟨inKeyOrder_of_decode read, type.fields.valid, fields_of_decode read⟩

/-- A type that keeps no history, with fields out of order, data of some depth and an index whose
writes are not serialized.
-/
theorem TypeDeclaration.serialized_recoverable_people
    : let data : JsonObject :=
        [("a", .array [.object [("x", .null), ("y", .bool true)]]), ("b", .string "")]
      let people : TypeDeclaration := {
        typeName := "Person"
        base? := some "Being"
        fields := ⟨[⟨"name", none⟩, ⟨"age", some "a"⟩], by constructor <;> decide⟩
        collection? := some { name := "people", historyDays? := none, data? := some data }
        indexes := [{
          name? := some ""
          values := [⟨.field "age", .reverse⟩, ⟨.timestamp, .default⟩]
          serialized := false }] }
      people.InKeyOrder
        ∧ decode people.toJson.toReading = .ok people
        ∧ FieldMap.Valid people.fields.toList := by
  intro data people
  have dataInOrder : (Json.object data).InKeyOrder := by
    simp only [data, Json.InKeyOrder, Json.InKeyOrderEntries, Json.InKeyOrderItems,
      Entries.Ordered]
    decide +kernel
  have inOrder : people.InKeyOrder := by
    constructor
    · rintro _ ⟨⟩
      exact ⟨by simpa using dataInOrder, by simp⟩
    · intro index member
      obtain rfl := List.mem_singleton.mp member
      exact ⟨by simp, by simp⟩
  have read := TypeDeclaration.serialized_recoverable.1 people inOrder
  exact ⟨inOrder, read, (TypeDeclaration.serialized_recoverable.2 _ _ read).2.1⟩

end Catalog
