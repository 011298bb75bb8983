import Catalog.Compilation
import Catalog.Proofs.Declaration.AcceptedName
import Catalog.Proofs.Declaration.Lookup
import Catalog.Proofs.Outcome

/-! What declared types are compiled to.
A type is compiled to a block: its collection, then its indexes one by one. Each part is related
to its declaration without compiling it, and compiling finds exactly the related results.
-/

namespace Catalog

open Outcome

-----------------------------------------------------------------------------------------
-- Declarations and what they are compiled to
-----------------------------------------------------------------------------------------

/-- What an element points at: a declared field at the name that it is stored under. -/
inductive Denotes (fields : FieldMap) : Element → IndexedField → Prop
  | field {field : Field} (declared : field ∈ fields.toList) (stored : field.storedName ≠ "")
    : Denotes fields (.field field.member) (.data field.storedName)
  | selfReference : Denotes fields .selfReference .reference
  | timestamp : Denotes fields .timestamp .timestamp

/-- A value points at what its element does and is reversed exactly if it is sorted so. -/
structure DenotesValue (fields : FieldMap) (value : SortedElement) (compiled : IndexedValue)
    : Prop where
  field : Denotes fields value.element compiled.field
  reverse : compiled.reverse = true ↔ value.order = .reverse

/-- The collection that is created for a type, declared or by default. -/
structure CompiledCollection (type : TypeDeclaration) (creation : CollectionCreation)
    : Prop where
  named : creation.name = type.collection.name
  accepted : Accepted creation.name
  historyDays? : creation.historyDays? = type.collection.historyDays?
  ttlDays? : creation.ttlDays? = type.collection.ttlDays?
  data? : creation.data? = type.collection.data?
  permissions? : creation.permissions? = type.collection.permissions?

/-- The index that is created for a declared one on the collection of the given name. -/
structure CompiledIndex (fields : FieldMap) (collection : String) (index : IndexDeclaration)
    (creation : IndexCreation)
    : Prop where
  named : creation.name = index.explicitName?.getD (index.derivedName collection fields)
  accepted : Accepted creation.name
  source : creation.source = collection
  terms : List.Forall₂ (Denotes fields) index.terms creation.terms
  values : List.Forall₂ (DenotesValue fields) index.values creation.values
  unique : creation.unique = index.unique
  serialized : creation.serialized = index.serialized
  data? : creation.data? = index.data?
  permissions? : creation.permissions? = index.permissions?

/-- The operations of a type: its collection, then one index on it for each declared one. -/
inductive Block (type : TypeDeclaration) : List Operation → Prop
  | intro {collection : CollectionCreation} {indexes : List IndexCreation}
    (compiled : CompiledCollection type collection)
    (each : List.Forall₂ (CompiledIndex type.fields collection.name) type.indexes indexes)
    : Block type (.createCollection collection :: indexes.map .createIndex)

-----------------------------------------------------------------------------------------
-- Compiling finds exactly what is related
-----------------------------------------------------------------------------------------

namespace TypeDeclaration

variable {type : TypeDeclaration}

/-- An element compiles to what it points at, by the cases of an element. -/
theorem compileElement_eq_ok {element : Element} {compiled : IndexedField}
    : type.compileElement element = .ok compiled ↔ Denotes type.fields element compiled := by
  constructor
  · intro success
    cases element with
    | field member =>
        -- The check discards the field that it finds, but the stored name is resolved from it.
        obtain ⟨_, required, done⟩ := bind_eq_ok.mp success
        obtain ⟨field, required⟩ := discard_eq_ok.mp required
        obtain ⟨declared, rfl⟩ := FieldMap.get?_eq_some.mp (requireField_eq_ok.mp required)
        obtain rfl := pure_eq_ok.mp done
        rw [FieldMap.resolve_of_mem declared]
        exact .field declared (FieldMap.storedName_ne declared)
    | selfReference =>
        obtain rfl := Except.ok.inj success
        exact .selfReference
    | timestamp =>
        obtain rfl := Except.ok.inj success
        exact .timestamp
  · intro denoted
    cases denoted with
    | field declared stored =>
        have required := requireField_eq_ok.mpr (FieldMap.get?_eq_some.mpr ⟨declared, rfl⟩)
        rw [compileElement, discard_eq_ok.mpr ⟨_, required⟩, FieldMap.resolve_of_mem declared]
        rfl
    | selfReference | timestamp => rfl

theorem compileValue_eq_ok {value : SortedElement} {compiled : IndexedValue}
    : type.compileValue value = .ok compiled ↔ DenotesValue type.fields value compiled := by
  simp only [compileValue, bind_eq_ok, pure_eq_ok, compileElement_eq_ok]
  constructor
  · rintro ⟨field, denoted, rfl⟩
    exact ⟨denoted, decide_eq_true_iff⟩
  · rintro ⟨denoted, reverse⟩
    have same : decide (value.order = .reverse) = compiled.reverse :=
      Bool.eq_iff_iff.mpr (decide_eq_true_iff.trans reverse.symm)
    exact ⟨compiled.field, denoted, by rw [same]⟩

theorem compileCollection_eq_ok {creation : CollectionCreation}
    : type.compileCollection = .ok creation ↔ CompiledCollection type creation := by
  simp only [compileCollection, CollectionDeclaration.check, bind_eq_ok, pure_eq_ok]
  constructor
  · rintro ⟨⟨⟩, checked, rfl⟩
    exact ⟨rfl, checkName_eq_ok.mp checked, rfl, rfl, rfl, rfl⟩
  · obtain ⟨name, historyDays?, ttlDays?, data?, permissions?⟩ := creation
    rintro ⟨rfl, accepted, rfl, rfl, rfl, rfl⟩
    exact ⟨(), checkName_eq_ok.mpr accepted, rfl⟩

/-- The name of an index is the given one or the derived one, and it is accepted in both cases:
the one is checked, and the other need not be.
-/
theorem compileIndexName_eq_ok {index : IndexDeclaration} {name : String}
    : type.compileIndexName index = .ok name
      ↔ name = index.explicitName?.getD (index.derivedName type.collection.name type.fields)
        ∧ Accepted name := by
  rw [compileIndexName]
  cases index.explicitName? with
  | none =>
      constructor
      · rintro ⟨⟩
        exact ⟨rfl, index.derivedName_accepted _ _⟩
      · rintro ⟨rfl, _⟩
        rfl
  | some given =>
      simp only [bind_eq_ok, pure_eq_ok, Option.getD_some]
      constructor
      · rintro ⟨⟨⟩, checked, rfl⟩
        exact ⟨rfl, checkName_eq_ok.mp checked⟩
      · rintro ⟨rfl, accepted⟩
        exact ⟨(), checkName_eq_ok.mpr accepted, rfl⟩

theorem compileIndex_eq_ok {index : IndexDeclaration} {creation : IndexCreation}
    : type.compileIndex index = .ok creation
      ↔ CompiledIndex type.fields type.collection.name index creation := by
  simp only [compileIndex, bind_eq_ok, pure_eq_ok, mapM_eq_ok, compileIndexName_eq_ok,
    compileElement_eq_ok, compileValue_eq_ok]
  constructor
  · rintro ⟨name, ⟨named, accepted⟩, terms, eachTerm, values, eachValue, rfl⟩
    exact ⟨named, accepted, rfl, eachTerm, eachValue, rfl, rfl, rfl, rfl⟩
  · obtain ⟨name, source, terms, values, unique, serialized, data?, permissions?⟩ := creation
    rintro ⟨named, accepted, rfl, eachTerm, eachValue, rfl, rfl, rfl, rfl⟩
    exact ⟨name, ⟨named, accepted⟩, terms, eachTerm, values, eachValue, rfl⟩

/-- A type is compiled in two steps: its collection, then all its indexes. -/
theorem compile_eq (type : TypeDeclaration)
    : type.compile
      = (do
        let collection ← type.compileCollection
        let indexes ← type.indexes.mapM type.compileIndex
        return .createCollection collection :: indexes.map .createIndex) := by
  rw [compile, compilations, List.mapM_cons, List.mapM_map, Function.id_comp, mapM_map_eq]
  rcases type.compileCollection with error | collection
  · rfl
  · rcases type.indexes.mapM type.compileIndex with error | indexes <;> rfl

theorem compile_eq_ok {operations : List Operation}
    : type.compile = .ok operations ↔ Block type operations := by
  simp only [compile_eq, bind_eq_ok, pure_eq_ok, mapM_eq_ok, compileCollection_eq_ok,
    compileIndex_eq_ok]
  constructor
  · rintro ⟨collection, compiled, indexes, each, rfl⟩
    exact .intro compiled (compiled.named ▸ each)
  · rintro ⟨compiled, each⟩
    exact ⟨_, compiled, _, compiled.named ▸ each, rfl⟩

end TypeDeclaration

/-- A plan consists of one block for each type that is not skipped, in the order of the types,
and there is a plan whenever there are such blocks. All names in it are accepted, though derived
ones are never checked; every index is on the collection of its own block; its terms and values
are those declared, fields being known by the names that they are stored under.
-/
theorem PassOptions.plan_consists_of_blocks (options : PassOptions)
    (types : List TypeDeclaration) (operations : List Operation)
    : options.plan types = .ok operations
      ↔ ∃ blocks,
          operations = blocks.flatten
          ∧ List.Forall₂ Block
              (types.filter fun type => !(options.skipUndeclared && type.collection?.isNone))
              blocks := by
  simp only [plan, bind_eq_ok, pure_eq_ok, mapM_eq_ok, TypeDeclaration.compile_eq_ok]
  constructor
  · rintro ⟨blocks, each, rfl⟩
    exact ⟨blocks, rfl, each⟩
  · rintro ⟨blocks, rfl, each⟩
    exact ⟨blocks, each, rfl⟩

end Catalog
