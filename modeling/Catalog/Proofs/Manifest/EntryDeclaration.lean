import Catalog.Manifest.Basic
import Catalog.Proofs.Scope.Registration

/-! When the entries of a manifest are declared.
An entry is declared exactly if its parts are. A manifest has a scope exactly if its entries are
declared as the types of a well-formed one.
-/

namespace Catalog.Manifest

open Outcome

-----------------------------------------------------------------------------------------
-- Texts of elements
-----------------------------------------------------------------------------------------

/-- A text that does not start like a marker is the member of a field. -/
theorem flatItem_of_head? {text : String} (head : text.toList.head? ≠ some '@')
    : Manifest.flatItem text = .ok (.element (.field text)) := by
  unfold Manifest.flatItem
  split
  case h_5 => exact if_neg head
  all_goals exact absurd rfl head

/-- A text is the member of a field only if it does not start like a marker. -/
theorem head?_of_flatItem {text member : String}
    (meant : flatItem text = .ok (.element (.field member)))
    : member.toList.head? ≠ some '@' := by
  unfold flatItem at meant
  split at meant
  case h_5 =>
    split at meant
    case isTrue => nomatch meant
    case isFalse head =>
      cases meant
      exact head
  all_goals nomatch meant

/-- A text is a term exactly if it means an element. -/
theorem term_eq_ok {text : String} {element : Element}
    : term text = .ok element ↔ flatItem text = .ok (.element element) := by
  rw [term, bind_eq_ok]
  constructor
  · rintro ⟨item, meant, done⟩
    cases item with
    | element found => exact pure_eq_ok.mp done ▸ meant
    | order _ => nomatch done
  · exact fun meant => ⟨_, meant, rfl⟩

-----------------------------------------------------------------------------------------
-- Entries
-----------------------------------------------------------------------------------------

/-- The entry of a collection is declared exactly if its parts are and it does not contradict
itself.
-/
theorem collectionEntry_eq_ok {entry : CollectionEntry} {typeName : String}
    {collection : CollectionDeclaration}
    : entry.toDeclaration typeName = .ok collection
      ↔ ¬(entry.noHistory ∧ entry.historyDays?.isSome)
        ∧ ∃ data?, entry.data?.mapM (DataEntry.toObject "data") = .ok data?
        ∧ ∃ permissions?,
          entry.permissions?.mapM (DataEntry.toObject "permissions") = .ok permissions?
          ∧ { name := entry.name?.getD typeName
              ttlDays? := entry.ttlDays?
              historyDays? :=
                if entry.noHistory then none
                else some (entry.historyDays?.getD defaultHistoryDays)
              data?, permissions? : CollectionDeclaration } = collection := by
  rw [CollectionEntry.toDeclaration]
  split
  case isTrue conflict =>
    simp [conflict]
  case isFalse agree =>
    simp only [bind_eq_ok, pure_eq_ok]
    exact (and_iff_right agree).symm

/-- The entry of an index is declared exactly if its parts are. -/
theorem indexEntry_eq_ok {entry : IndexEntry} {index : IndexDeclaration}
    : entry.toDeclaration = .ok index
      ↔ ∃ terms, entry.terms.mapM term = .ok terms
        ∧ ∃ items, entry.values.mapM flatItem = .ok items
        ∧ ∃ values, SortedElement.ofFlat items = .ok values
        ∧ ∃ data?, entry.data?.mapM (DataEntry.toObject "data") = .ok data?
        ∧ ∃ permissions?,
          entry.permissions?.mapM (DataEntry.toObject "permissions") = .ok permissions?
          ∧ { name? := entry.name?
              terms, values
              unique := entry.unique
              serialized := entry.serialized
              data?, permissions? : IndexDeclaration } = index := by
  simp only [IndexEntry.toDeclaration, bind_eq_ok, pure_eq_ok]

/-- The indexes of a manifest are declared one after another; by induction on the entries. -/
theorem indexDeclarations_eq_ok {position : Nat} {entries : List IndexEntry}
    {indexes : List IndexDeclaration}
    : indexDeclarations position entries = .ok indexes
      ↔ entries.mapM IndexEntry.toDeclaration = .ok indexes := by
  induction entries generalizing position indexes with
  | nil => rfl
  | cons entry rest ih =>
      simp only [indexDeclarations, List.mapM_cons, bind_eq_ok, mapError_eq_ok, ih]

/-- The entry of a type is declared exactly if its parts are. -/
theorem typeEntry_eq_ok {entry : TypeEntry} {type : TypeDeclaration}
    : entry.toDeclaration = .ok type
      ↔ ∃ fields, FieldMap.ofList entry.fields = .ok fields
        ∧ ∃ collection?,
          entry.collection?.mapM (CollectionEntry.toDeclaration entry.name) = .ok collection?
        ∧ ∃ indexes, indexDeclarations 0 entry.indexes = .ok indexes
        ∧ ⟨entry.name, entry.base?, fields, collection?, indexes⟩ = type := by
  simp only [TypeEntry.toDeclaration, bind_eq_ok, pure_eq_ok]

-----------------------------------------------------------------------------------------
-- Manifests
-----------------------------------------------------------------------------------------

/-- Entries are registered one after another exactly if they are declared and the types are
inserted, by induction on the entries.
-/
theorem foldlM_register_eq_ok {entries : List TypeEntry} {scope next : Scope}
    : entries.foldlM register scope = .ok next
      ↔ ∃ types, entries.mapM TypeEntry.toDeclaration = .ok types
        ∧ types.foldlM Scope.insert scope = .ok next := by
  induction entries generalizing scope with
  | nil => simp
  | cons entry rest ih =>
      simp only [List.foldlM_cons, List.mapM_cons, bind_eq_ok, ih, register,
        Scope.register_eq_bind, mapError_eq_ok, pure_eq_ok]
      constructor
      · rintro ⟨middle, ⟨type, declared, inserted⟩, types, others, rest⟩
        exact ⟨type :: types, ⟨type, declared, types, others, rfl⟩,
          bind_eq_ok.mpr ⟨middle, inserted, rest⟩⟩
      · rintro ⟨_, ⟨type, declared, types, others, rfl⟩, all⟩
        obtain ⟨middle, inserted, rest⟩ := bind_eq_ok.mp all
        exact ⟨middle, ⟨type, declared, inserted⟩, types, others, rest⟩

/-- A manifest has a scope exactly if its entries are declared as the types of a well-formed one.
-/
theorem toScope_eq_ok {manifest : Manifest} {scope : Scope}
    : manifest.toScope = .ok scope
      ↔ manifest.types.mapM TypeEntry.toDeclaration = .ok scope.types ∧ scope.WellFormed := by
  simp only [toScope, foldlM_register_eq_ok, Scope.foldlM_insert_eq_ok Scope.wellFormed_empty,
    List.nil_append]
  constructor
  · rintro ⟨_, declared, rfl, wellFormed⟩
    exact ⟨declared, wellFormed⟩
  · rintro ⟨declared, wellFormed⟩
    exact ⟨_, declared, rfl, wellFormed⟩

end Catalog.Manifest
