import Catalog.Proofs.Compilation.Blocks
import Catalog.Proofs.Declaration.Acceptance
import Mathlib.Data.Set.Function
import Mathlib.Logic.Equiv.Basic

/-! Members can be renamed in code without any change to the schema.
A renamed field keeps its stored name as an alias. Compiling and naming indexes reach a member
only through its stored name, so both find the same under the new members.
-/

namespace Catalog

open Outcome

-----------------------------------------------------------------------------------------
-- Renamed declarations
-----------------------------------------------------------------------------------------

/-- A field under a new member, stored under the name that it had. -/
def Field.renamed (rename : String → String) (field : Field) : Field :=
  ⟨rename field.member, some field.storedName⟩

/-- An element that refers to the new member. -/
def Element.renamed (rename : String → String) : Element → Element
  | field member => field (rename member)
  | selfReference => selfReference
  | timestamp => timestamp

def SortedElement.renamed (rename : String → String) (value : SortedElement) : SortedElement :=
  { value with element := value.element.renamed rename }

def IndexDeclaration.renamed (rename : String → String) (index : IndexDeclaration)
    : IndexDeclaration :=
  { index with
    terms := index.terms.map (Element.renamed rename)
    values := index.values.map (SortedElement.renamed rename) }

/-- A type with the given fields, whose indexes refer to the new members. -/
def TypeDeclaration.renamed (rename : String → String) (fields : FieldMap)
    (type : TypeDeclaration)
    : TypeDeclaration :=
  { type with fields, indexes := type.indexes.map (IndexDeclaration.renamed rename) }

/-- The member is that of a field, or one of the type's indexes refers to it. -/
def TypeDeclaration.Mentions (type : TypeDeclaration) (member : String) : Prop :=
  (∃ field ∈ type.fields.toList, field.member = member)
    ∨ ∃ index ∈ type.indexes, member ∈ index.members

/-- Renaming does not take the member for that of another field. -/
def FieldMap.KeepsApart (fields : FieldMap) (rename : String → String) (member : String)
    : Prop :=
  ∀ field ∈ fields.toList, rename field.member = rename member → field.member = member

section

variable {rename : String → String} {fields renamedFields : FieldMap}

/-- Fields with new members that are distinct and not empty can stand together, as their stored
names stay what they were.
-/
theorem FieldMap.Valid.renamed
    (apart : ∀ field ∈ fields.toList, fields.KeepsApart rename field.member)
    (named : ∀ field ∈ fields.toList, rename field.member ≠ "")
    : FieldMap.Valid (fields.toList.map (Field.renamed rename)) where
  member_ne := by
    intro field listed
    obtain ⟨original, declared, rfl⟩ := List.mem_map.mp listed
    exact named original declared
  alias_ne := by
    intro field listed
    obtain ⟨original, declared, rfl⟩ := List.mem_map.mp listed
    intro unnamed
    exact FieldMap.storedName_ne declared (Option.some.inj unnamed)
  members_nodup := by
    have members : (fields.toList.map (Field.renamed rename)).map Field.member
        = (fields.toList.map Field.member).map rename := by
      rw [List.map_map, List.map_map]
      rfl
    rw [members]
    refine List.Nodup.map_on ?_ fields.valid.members_nodup
    intro member first other second same
    obtain ⟨field, declared, rfl⟩ := List.mem_map.mp first
    obtain ⟨found, present, rfl⟩ := List.mem_map.mp second
    exact apart found present field declared same
  storedNames_nodup := by
    have storedNames : (fields.toList.map (Field.renamed rename)).map Field.storedName
        = fields.toList.map Field.storedName := by
      rw [List.map_map]
      rfl
    rw [storedNames]
    exact fields.valid.storedNames_nodup

-----------------------------------------------------------------------------------------
-- What renamed elements point at
-----------------------------------------------------------------------------------------

variable (listed : renamedFields.toList = fields.toList.map (Field.renamed rename))

include listed

theorem mem_renamedFields {field : Field} (declared : field ∈ fields.toList)
    : field.renamed rename ∈ renamedFields.toList := by
  rw [listed]
  exact List.mem_map_of_mem declared

theorem Denotes.renamed {element : Element} {compiled : IndexedField}
    (denoted : Denotes fields element compiled)
    : Denotes renamedFields (element.renamed rename) compiled := by
  cases denoted with
  | field declared stored => exact Denotes.field (mem_renamedFields listed declared) stored
  | selfReference => exact .selfReference
  | timestamp => exact .timestamp

/-- A renamed element points at what the element does, and at nothing if the element refers to
a member that is not declared, unless the member is taken for another one.
-/
theorem denotes_renamed_iff {element : Element} {compiled : IndexedField}
    (apart : ∀ member ∈ element.member?, fields.KeepsApart rename member)
    : Denotes renamedFields (element.renamed rename) compiled
      ↔ Denotes fields element compiled := by
  constructor
  · intro denoted
    cases element with
    | field member =>
        generalize same : Element.renamed rename (.field member) = renamed at denoted
        cases denoted with
        | field present stored =>
            rw [listed] at present
            obtain ⟨field, declared, rfl⟩ := List.mem_map.mp present
            have members : field.member = member :=
              apart member rfl field declared (Element.field.inj same).symm
            subst members
            exact Denotes.field declared stored
        | selfReference | timestamp => nomatch same
    | selfReference =>
        cases denoted
        exact .selfReference
    | timestamp =>
        cases denoted
        exact .timestamp
  · exact Denotes.renamed listed

theorem denotesValue_renamed_iff {value : SortedElement} {compiled : IndexedValue}
    (apart : ∀ member ∈ value.element.member?, fields.KeepsApart rename member)
    : DenotesValue renamedFields (value.renamed rename) compiled
      ↔ DenotesValue fields value compiled := by
  constructor
  · intro denoted
    exact ⟨(denotes_renamed_iff listed apart).mp denoted.field, denoted.reverse⟩
  · intro denoted
    exact ⟨(denotes_renamed_iff listed apart).mpr denoted.field, denoted.reverse⟩

-----------------------------------------------------------------------------------------
-- Names of renamed indexes
-----------------------------------------------------------------------------------------

/-- An element that points at something contributes the same to a derived name under its new
member: both resolve to the stored name.
-/
theorem Denotes.elementToken_renamed {element : Element} {compiled : IndexedField}
    (denoted : Denotes fields element compiled) (collection : String)
    : IndexDeclaration.elementToken collection renamedFields (element.renamed rename)
      = IndexDeclaration.elementToken collection fields element := by
  cases denoted with
  | @field field declared stored =>
      have new : renamedFields.resolve (rename field.member) = field.storedName :=
        FieldMap.resolve_of_mem (mem_renamedFields listed declared)
      have old : fields.resolve field.member = field.storedName :=
        FieldMap.resolve_of_mem declared
      exact new.trans old.symm
  | selfReference => rfl
  | timestamp => rfl

theorem termTokens_renamed {terms : List Element} {compiled : List IndexedField}
    (denoted : List.Forall₂ (Denotes fields) terms compiled) (collection : String)
    : (terms.map (Element.renamed rename)).map
          (IndexDeclaration.elementToken collection renamedFields)
      = terms.map (IndexDeclaration.elementToken collection fields) := by
  rw [List.map_map]
  apply List.map_congr_left
  intro element member
  obtain ⟨_, _, pointed⟩ := exists_mem_of_forall₂ denoted element member
  exact pointed.elementToken_renamed listed collection

theorem valueTokens_renamed {values : List SortedElement} {compiled : List IndexedValue}
    (denoted : List.Forall₂ (DenotesValue fields) values compiled) (collection : String)
    : (values.map (SortedElement.renamed rename)).flatMap
          (IndexDeclaration.valueTokens collection renamedFields)
      = values.flatMap (IndexDeclaration.valueTokens collection fields) := by
  rw [List.flatMap_map]
  apply List.flatMap_congr
  intro value member
  obtain ⟨_, _, pointed⟩ := exists_mem_of_forall₂ denoted value member
  exact congrArg (· :: _) (pointed.field.elementToken_renamed listed collection)

/-- An index whose elements all point at something has the same derived name after renaming. -/
theorem derivedName_renamed {index : IndexDeclaration} {terms : List IndexedField}
    {values : List IndexedValue} (termsDenoted : List.Forall₂ (Denotes fields) index.terms terms)
    (valuesDenoted : List.Forall₂ (DenotesValue fields) index.values values)
    (collection : String)
    : (index.renamed rename).derivedName collection renamedFields
      = index.derivedName collection fields := by
  simp only [IndexDeclaration.derivedName, IndexDeclaration.renamed, List.isEmpty_map,
    termTokens_renamed listed termsDenoted collection,
    valueTokens_renamed listed valuesDenoted collection]

-----------------------------------------------------------------------------------------
-- Compiling what was renamed
-----------------------------------------------------------------------------------------

theorem compiledIndex_renamed_iff {index : IndexDeclaration} {collection : String}
    {creation : IndexCreation}
    (apart : ∀ member ∈ index.members, fields.KeepsApart rename member)
    : CompiledIndex renamedFields collection (index.renamed rename) creation
      ↔ CompiledIndex fields collection index creation := by
  have kept : ∀ element ∈ index.elements, ∀ member ∈ element.member?,
      fields.KeepsApart rename member := by
    intro element listed member refers
    exact apart member (List.mem_filterMap.mpr ⟨element, listed, refers⟩)
  have terms : List.Forall₂ (Denotes renamedFields) (index.renamed rename).terms creation.terms
      ↔ List.Forall₂ (Denotes fields) index.terms creation.terms := by
    rw [IndexDeclaration.renamed, List.forall₂_map_left_iff]
    refine forall₂_congr_of_mem ?_
    intro element member compiled
    exact denotes_renamed_iff listed (kept element (List.mem_append_left _ member))
  have values : List.Forall₂ (DenotesValue renamedFields) (index.renamed rename).values
        creation.values
      ↔ List.Forall₂ (DenotesValue fields) index.values creation.values := by
    rw [IndexDeclaration.renamed, List.forall₂_map_left_iff]
    refine forall₂_congr_of_mem ?_
    intro value member compiled
    have element : value.element ∈ index.elements :=
      List.mem_append_right _ (List.mem_map_of_mem member)
    exact denotesValue_renamed_iff listed (kept value.element element)
  constructor
  · intro compiled
    have termsDenoted := terms.mp compiled.terms
    have valuesDenoted := values.mp compiled.values
    have named := compiled.named
    rw [derivedName_renamed listed termsDenoted valuesDenoted] at named
    exact { compiled with named, terms := termsDenoted, values := valuesDenoted }
  · intro compiled
    have named := compiled.named
    rw [← derivedName_renamed listed compiled.terms compiled.values] at named
    exact { compiled with
      named, terms := terms.mpr compiled.terms, values := values.mpr compiled.values }

end

theorem block_renamed_iff {type : TypeDeclaration} {rename : String → String}
    {fields : FieldMap} (listed : fields.toList = type.fields.toList.map (Field.renamed rename))
    (apart
      : ∀ index ∈ type.indexes, ∀ member ∈ index.members, type.fields.KeepsApart rename member)
    {operations : List Operation}
    : Block (type.renamed rename fields) operations ↔ Block type operations := by
  have indexes {collection : String} {creations : List IndexCreation}
      : List.Forall₂ (CompiledIndex fields collection)
          (type.indexes.map (IndexDeclaration.renamed rename)) creations
        ↔ List.Forall₂ (CompiledIndex type.fields collection) type.indexes creations := by
    rw [List.forall₂_map_left_iff]
    refine forall₂_congr_of_mem ?_
    intro index member creation
    exact compiledIndex_renamed_iff listed (apart index member)
  -- A type keeps its collection, declared or by default.
  constructor
  · intro block
    cases block with
    | intro compiled each => exact .intro { compiled with } (indexes.mp each)
  · intro block
    cases block with
    | intro compiled each => exact .intro { compiled with } (indexes.mpr each)

/-- Members are renamed without any change to the schema: if the members that a type mentions
get distinct names, and those of fields none that is empty, the renamed fields can stand
together, and the renamed type compiles exactly if the type does, to the same operations.
-/
theorem TypeDeclaration.compile_renamed {type : TypeDeclaration} {rename : String → String}
    (injective : Set.InjOn rename {member | type.Mentions member})
    (named : ∀ field ∈ type.fields.toList, rename field.member ≠ "")
    : ∃ fields,
        FieldMap.ofList (type.fields.toList.map (Field.renamed rename)) = .ok fields
        ∧ ∀ operations,
            (type.renamed rename fields).compile = .ok operations
            ↔ type.compile = .ok operations := by
  have apart {member : String} (mentioned : type.Mentions member)
      : type.fields.KeepsApart rename member := by
    intro field declared same
    exact injective (Or.inl ⟨field, declared, rfl⟩) mentioned same
  have valid : FieldMap.Valid (type.fields.toList.map (Field.renamed rename)) :=
    FieldMap.Valid.renamed (fun field declared => apart (Or.inl ⟨field, declared, rfl⟩)) named
  obtain ⟨fields, accepted⟩ := FieldMap.exists_ofList_eq_ok.mpr valid
  refine ⟨fields, accepted, ?_⟩
  intro operations
  rw [compile_eq_ok, compile_eq_ok]
  refine block_renamed_iff (FieldMap.ofList_eq_ok.mp accepted) ?_
  intro index listed member refers
  exact apart (Or.inr ⟨index, listed, refers⟩)

/-- Two fields of `people` swap their members, one of which had an alias; the derived name of the
index and everything else stays.
-/
theorem TypeDeclaration.compile_renamed_people
    : let fields : FieldMap := ⟨[⟨"name", none⟩, ⟨"age", some "Age"⟩], by
        constructor <;> simp [Field.storedName]⟩
      let swapped : FieldMap := ⟨[⟨"age", some "name"⟩, ⟨"name", some "Age"⟩], by
        constructor <;> simp [Field.storedName]⟩
      let people : TypeDeclaration := {
        typeName := "people"
        fields
        indexes := [{
          terms := [.field "age"]
          values := [
            { element := .field "name", order := .reverse },
            { element := .timestamp }] }] }
      (people.renamed (Equiv.swap "name" "age") swapped).compile
        = .ok [
          .createCollection { name := "people", historyDays? := some 30 },
          .createIndex {
            name := "name_reverse_ts_by_Age"
            source := "people"
            terms := [.data "Age"]
            values := [⟨.data "name", true⟩, ⟨.timestamp, false⟩]
            unique := false
            serialized := true
            data? := none
            permissions? := none }] := by
  intro fields swapped people
  have injective : Set.InjOn (Equiv.swap "name" "age") {member | people.Mentions member} :=
    (Equiv.swap "name" "age").injective.injOn
  have named : ∀ field ∈ people.fields.toList, Equiv.swap "name" "age" field.member ≠ "" := by
    decide
  obtain ⟨renamed, accepted, same⟩ := compile_renamed injective named
  obtain rfl : renamed = swapped :=
    FieldMap.eq_of_toList ((FieldMap.ofList_eq_ok.mp accepted).trans (by decide))
  exact (same _).mpr (by decide)

end Catalog
