import Catalog.Error

/-! The fields of a declared type: members in code and the names they are stored under. -/

namespace Catalog

/-- A member that can be used in indexes. -/
structure Field where
  /-- The identifier in code. -/
  member : String
  /-- The name the field is stored under, if it differs from the member. -/
  alias? : Option String
  deriving DecidableEq, Repr

/-- The name a field is stored under: its alias, or else the member itself. -/
def Field.storedName (field : Field) : String :=
  field.alias?.getD field.member

/-- Fields that can stand together: members and aliases are not empty, and neither two members
nor two stored names are equal.
-/
structure FieldMap.Valid (fields : List Field) : Prop where
  member_ne : ∀ field ∈ fields, field.member ≠ ""
  alias_ne : ∀ field ∈ fields, field.alias? ≠ some ""
  members_nodup : (fields.map Field.member).Nodup
  storedNames_nodup : (fields.map Field.storedName).Nodup

/-- The fields of a type, in the order of their declaration. -/
structure FieldMap where
  toList : List Field
  valid : FieldMap.Valid toList
  deriving DecidableEq

namespace FieldMap

/-- No fields. -/
def empty : FieldMap :=
  ⟨[], ⟨nofun, nofun, .nil, .nil⟩⟩

instance : Inhabited FieldMap := ⟨empty⟩

/-- The field declared under a member. -/
def get? (map : FieldMap) (member : String) : Option Field :=
  map.toList.find? (·.member = member)

/-- The alias declared for a member. -/
def alias? (map : FieldMap) (member : String) : Option String :=
  (map.get? member).bind Field.alias?

/-- The stored name of a member. An undeclared member stands for itself. -/
def resolve (map : FieldMap) (member : String) : String :=
  (map.alias? member).getD member

/-- A field that meets no fault can be added at the end, by the four conditions in turn. -/
theorem Valid.append {fields : List Field} {field : Field} (valid : Valid fields)
    (member_ne : field.member ≠ "") (alias_ne : field.alias? ≠ some "")
    (fresh : ∀ other ∈ fields, other.member ≠ field.member)
    (apart : ∀ other ∈ fields, other.storedName ≠ field.storedName)
    : Valid (fields ++ [field]) where
  member_ne := by
    intro other present
    rcases List.mem_append.1 present with old | new
    · exact valid.member_ne other old
    · rw [List.mem_singleton.1 new]; exact member_ne
  alias_ne := by
    intro other present
    rcases List.mem_append.1 present with old | new
    · exact valid.alias_ne other old
    · rw [List.mem_singleton.1 new]; exact alias_ne
  members_nodup := by
    rw [List.map_append, List.nodup_append]
    refine ⟨valid.members_nodup, by simp, ?_⟩
    intro a old b new
    obtain ⟨other, present, rfl⟩ := List.mem_map.1 old
    simp only [List.map_cons, List.map_nil, List.mem_singleton] at new
    exact new ▸ fresh other present
  storedNames_nodup := by
    rw [List.map_append, List.nodup_append]
    refine ⟨valid.storedNames_nodup, by simp, ?_⟩
    intro a old b new
    obtain ⟨other, present, rfl⟩ := List.mem_map.1 old
    simp only [List.map_cons, List.map_nil, List.mem_singleton] at new
    exact new ▸ apart other present

/-- Tries to add a field at the end, and returns what comes of it with the map afterwards. It is
refused if its member or alias is empty, if the member is declared already, or if another field is
stored under the same name.
-/
def tryInsert (map : FieldMap) (field : Field) : Except Error Unit × FieldMap :=
  if member_ne : field.member = "" then (.error (.invalidField .emptyMember), map)
  else if alias_ne : field.alias? = some "" then
    (.error (.invalidField (.emptyAlias field.member)), map)
  else match fresh : map.get? field.member with
  | some _ => (.error (.invalidField (.repeatedMember field.member)), map)
  | none =>
    match apart : map.toList.find? (·.storedName = field.storedName) with
    | some other =>
      (.error (.invalidField (.sharedName other.member field.member field.storedName)), map)
    | none =>
      (.ok (), ⟨map.toList ++ [field], map.valid.append member_ne alias_ne
        (by simpa [get?] using fresh) (by simpa using apart)⟩)

/-- Adds a field at the end. -/
def insert (map : FieldMap) (field : Field) : Except Error FieldMap :=
  stateAfter (map.tryInsert field)

/-- Adds fields one after another. -/
def insertAll (map : FieldMap) (fields : List Field) : Except Error FieldMap :=
  fields.foldlM insert map

/-- The map of the given fields. -/
def ofList (fields : List Field) : Except Error FieldMap :=
  empty.insertAll fields

end FieldMap

end Catalog
