import Catalog.Proofs.Declaration.Acceptance
import Catalog.Proofs.Declaration.FlatValues
import Catalog.Proofs.Manifest.EntryDeclaration

/-! Which scopes a manifest can express.
A scope is written as a manifest entry by entry: names and flags are always given, data stands as
objects, and an index refers to a field by its member. Such a manifest has the scope that it was
written for, unless a member would be taken for a marker; and no manifest has a scope with an index
on such a member.
-/

namespace Catalog

open Outcome

/-- An index does not refer to members that start like a marker. -/
def IndexDeclaration.Unmarked (index : IndexDeclaration) : Prop :=
  ∀ member ∈ index.members, member.toList.head? ≠ some '@'

/-- No index of a scope refers to a member that starts like a marker. -/
def Scope.Unmarked (scope : Scope) : Prop :=
  ∀ type ∈ scope.types, ∀ index ∈ type.indexes, index.Unmarked

namespace Manifest

-----------------------------------------------------------------------------------------
-- Writing declarations as entries
-----------------------------------------------------------------------------------------

/-- The text of an element: a marker, or the member of a field. -/
def textOf : Element → String
  | .field member => member
  | .selfReference => "@ref"
  | .timestamp => "@ts"

/-- The texts of a value, of which the last is its order if it is reversed. -/
def textsOf (value : SortedElement) : List String :=
  textOf value.element
    :: match value.order with
      | .default => []
      | .reverse => ["@reverse"]

/-- The entry of a declared collection. It gives the name, and either a number of days for the
history or none at all, so that no default takes their place.
-/
def CollectionEntry.ofDeclaration (collection : CollectionDeclaration) : CollectionEntry where
  name? := some collection.name
  ttlDays? := collection.ttlDays?
  historyDays? := collection.historyDays?
  noHistory := collection.historyDays?.isNone
  data? := collection.data?.map .object
  permissions? := collection.permissions?.map .object

/-- The entry of a declared index. -/
def IndexEntry.ofDeclaration (index : IndexDeclaration) : IndexEntry where
  name? := index.name?
  terms := index.terms.map textOf
  values := index.values.flatMap textsOf
  unique := index.unique
  serialized := index.serialized
  data? := index.data?.map .object
  permissions? := index.permissions?.map .object

/-- The entry of a declared type. -/
def TypeEntry.ofDeclaration (type : TypeDeclaration) : TypeEntry where
  name := type.typeName
  base? := type.base?
  fields := type.fields.toList
  collection? := type.collection?.map .ofDeclaration
  indexes := type.indexes.map .ofDeclaration

/-- The manifest of a scope, with one entry for each type. -/
def ofScope (scope : Scope) : Manifest where
  types := scope.types.map .ofDeclaration

-----------------------------------------------------------------------------------------
-- Declaring what was written
-----------------------------------------------------------------------------------------

/-- Data that stands as an object is that object. -/
theorem mapM_toObject_object (property : String) (object? : Option JsonObject)
    : (object?.map DataEntry.object).mapM (DataEntry.toObject property) = .ok object? := by
  cases object? <;> rfl

/-- The text of an element means that element, by its cases. -/
theorem flatItem_textOf {element : Element}
    (unmarked : ∀ member ∈ element.member?, member.toList.head? ≠ some '@')
    : flatItem (textOf element) = .ok (.element element) := by
  cases element with
  | field member => exact flatItem_of_head? (unmarked member rfl)
  | selfReference | timestamp => rfl

/-- The texts of terms mean those terms. -/
theorem mapM_term_textOf {terms : List Element}
    (unmarked : ∀ element ∈ terms, ∀ member ∈ element.member?, member.toList.head? ≠ some '@')
    : (terms.map textOf).mapM term = .ok terms := by
  rw [mapM_eq_ok, List.forall₂_map_left_iff, List.forall₂_same]
  exact fun element listed => term_eq_ok.mpr (flatItem_textOf (unmarked element listed))

/-- The texts of values mean a flat form of them, by induction on the values. -/
theorem mapM_flatItem_textsOf {values : List SortedElement}
    (unmarked : ∀ value ∈ values, ∀ member ∈ value.element.member?,
      member.toList.head? ≠ some '@')
    : ∃ items, (values.flatMap textsOf).mapM flatItem = .ok items ∧ FlatForm values items := by
  induction values with
  | nil => exact ⟨[], rfl, .nil⟩
  | cons value rest ih =>
      obtain ⟨element, order⟩ := value
      obtain ⟨first, others⟩ := List.forall_mem_cons.mp unmarked
      obtain ⟨items, meant, form⟩ := ih others
      have element_meant := flatItem_textOf first
      cases order with
      | default =>
          refine ⟨_, ?_, .plain element form⟩
          simp only [List.flatMap_cons, textsOf, List.singleton_append, List.mapM_cons,
            element_meant, meant, ok_bind]
          rfl
      | reverse =>
          have order_meant : flatItem "@reverse" = .ok (.order .reverse) := rfl
          refine ⟨_, ?_, .ordered element .reverse form⟩
          simp only [List.flatMap_cons, textsOf, List.cons_append, List.nil_append,
            List.mapM_cons, element_meant, order_meant, meant, ok_bind]
          rfl

/-- The entry of a collection is declared as that collection, by whether it keeps history for a
number of days.
-/
theorem CollectionEntry.toDeclaration_ofDeclaration (collection : CollectionDeclaration)
    (typeName : String)
    : (CollectionEntry.ofDeclaration collection).toDeclaration typeName = .ok collection := by
  refine collectionEntry_eq_ok.mpr
    ⟨?_, _, mapM_toObject_object _ _, _, mapM_toObject_object _ _, ?_⟩
  · simp [ofDeclaration]
  · obtain ⟨name, ttlDays?, _ | days, data?, permissions?⟩ := collection <;> rfl

/-- The entry of an index that refers to no marker is declared as that index. -/
theorem IndexEntry.toDeclaration_ofDeclaration {index : IndexDeclaration}
    (unmarked : index.Unmarked)
    : (IndexEntry.ofDeclaration index).toDeclaration = .ok index := by
  have refers {element : Element} (listed : element ∈ index.elements)
      : ∀ member ∈ element.member?, member.toList.head? ≠ some '@' := fun member named =>
    unmarked member (List.mem_filterMap.mpr ⟨element, listed, named⟩)
  have terms := mapM_term_textOf fun element listed => refers (List.mem_append_left _ listed)
  obtain ⟨items, meant, form⟩ := mapM_flatItem_textsOf fun value listed =>
    refers (List.mem_append_right _ (List.mem_map_of_mem listed))
  exact indexEntry_eq_ok.mpr ⟨_, terms, items, meant, _, form.ofFlat_eq_ok,
    _, mapM_toObject_object _ _, _, mapM_toObject_object _ _, rfl⟩

/-- The entry of a type whose indexes refer to no marker is declared as that type. -/
theorem TypeEntry.toDeclaration_ofDeclaration {type : TypeDeclaration}
    (unmarked : ∀ index ∈ type.indexes, index.Unmarked)
    : (TypeEntry.ofDeclaration type).toDeclaration = .ok type := by
  have collection : (type.collection?.map CollectionEntry.ofDeclaration).mapM
      (CollectionEntry.toDeclaration type.typeName) = .ok type.collection? := by
    cases type.collection? with
    | none => rfl
    | some collection =>
        exact option_mapM_some_eq_ok.mpr
          ⟨_, CollectionEntry.toDeclaration_ofDeclaration collection _, rfl⟩
  have indexes : (type.indexes.map IndexEntry.ofDeclaration).mapM IndexEntry.toDeclaration
      = .ok type.indexes := by
    rw [mapM_eq_ok, List.forall₂_map_left_iff, List.forall₂_same]
    exact fun index listed => IndexEntry.toDeclaration_ofDeclaration (unmarked index listed)
  exact typeEntry_eq_ok.mpr ⟨type.fields, FieldMap.ofList_eq_ok.mpr rfl, _, collection,
    _, indexDeclarations_eq_ok.mpr indexes, rfl⟩

/-- The manifest of a well-formed scope whose indexes refer to no marker has that scope. -/
theorem toScope_ofScope {scope : Scope} (wellFormed : scope.WellFormed) (unmarked : scope.Unmarked)
    : (ofScope scope).toScope = .ok scope := by
  refine toScope_eq_ok.mpr ⟨?_, wellFormed⟩
  rw [ofScope, mapM_eq_ok, List.forall₂_map_left_iff, List.forall₂_same]
  exact fun type registered => TypeEntry.toDeclaration_ofDeclaration (unmarked type registered)

-----------------------------------------------------------------------------------------
-- What manifests express
-----------------------------------------------------------------------------------------

/-- An index of a manifest refers to no marker, since its fields are texts that mean members. -/
theorem IndexEntry.unmarked_of_toDeclaration {entry : IndexEntry} {index : IndexDeclaration}
    (declared : entry.toDeclaration = .ok index)
    : index.Unmarked := by
  obtain ⟨terms, termsMeant, items, itemsMeant, values, read, _, _, _, _, rfl⟩ :=
    indexEntry_eq_ok.mp declared
  intro member referred
  obtain ⟨element, listed, named⟩ := List.mem_filterMap.mp referred
  cases element with
  | selfReference | timestamp => nomatch named
  | field found =>
      obtain rfl := Option.some.inj named
      rcases List.mem_append.mp listed with term | value
      · obtain ⟨text, _, meant⟩ := exists_of_mem_mapM termsMeant _ term
        exact head?_of_flatItem (term_eq_ok.mp meant)
      · rw [SortedElement.elements_ofFlat read, List.mem_filterMap] at value
        obtain ⟨item, among, same⟩ := value
        obtain ⟨text, _, meant⟩ := exists_of_mem_mapM itemsMeant item among
        cases item with
        | order _ => nomatch same
        | element _ =>
            obtain rfl := Option.some.inj same
            exact head?_of_flatItem meant

/-- No index of a manifest's scope refers to a member that starts like a marker. -/
theorem unmarked_of_toScope {manifest : Manifest} {scope : Scope}
    (built : manifest.toScope = .ok scope)
    : scope.Unmarked := by
  obtain ⟨declared, _⟩ := toScope_eq_ok.mp built
  intro type registered index listed
  obtain ⟨entry, _, made⟩ := exists_of_mem_mapM declared type registered
  obtain ⟨_, _, _, _, indexes, indexesMade, rfl⟩ := typeEntry_eq_ok.mp made
  obtain ⟨indexEntry, _, made⟩ :=
    exists_of_mem_mapM (indexDeclarations_eq_ok.mp indexesMade) index listed
  exact IndexEntry.unmarked_of_toDeclaration made

/-- A scope that was built by registrations is the scope of some manifest, with the same types in
the same order, exactly if no index of it refers to a member that starts like a marker. Witness: the
manifest that is written for the scope.
-/
theorem exists_toScope_iff (registrations : List Registration)
    : let scope := (Scope.attemptAll {} registrations).2
      (∃ manifest : Manifest, manifest.toScope = .ok scope)
      ↔ ∀ type ∈ scope.types, ∀ index ∈ type.indexes, ∀ member ∈ index.members,
          member.toList.head? ≠ some '@' := by
  intro scope
  have wellFormed : scope.WellFormed := Scope.wellFormed_empty.attemptAll registrations
  constructor
  · rintro ⟨manifest, built⟩
    exact unmarked_of_toScope built
  · intro unmarked
    exact ⟨ofScope scope, toScope_ofScope wellFormed unmarked⟩

end Manifest

end Catalog
