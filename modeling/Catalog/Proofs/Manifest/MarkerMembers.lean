import Catalog.Proofs.Manifest.EntryConditions

/-! Texts of a manifest that could be a member as well as a marker.
What a text among the elements of an index means is settled by how it is spelled, before any field
is looked up. So it stands for the member of that name unless it is a marker; and a field that is
named like a marker cannot be referred to, although it can be declared.
-/

namespace Catalog.Manifest

open Outcome

-----------------------------------------------------------------------------------------
-- Spelling
-----------------------------------------------------------------------------------------

theorem head?_of_mem_markers : ∀ text ∈ markers, text.toList.head? = some '@' := by
  decide

/-- No text refers to a member that is spelled like a marker. -/
theorem notMem_markers_of_flatItem {text member : String}
    (meant : flatItem text = .ok (.element (.field member)))
    : member ∉ markers :=
  fun marked => head?_of_flatItem meant (head?_of_mem_markers member marked)

/-- A text that is no marker refers to the member it spells. -/
theorem flatItem_of_notMem_markers {text : String} {item : FlatItem}
    (meant : flatItem text = .ok item) (unmarked : text ∉ markers)
    : item = .element (.field text) := by
  have head : text.toList.head? ≠ some '@' := fun head =>
    unmarked (mem_markers_of_flatItem meant head)
  exact Except.ok.inj (meant.symm.trans (flatItem_of_head? head))

-----------------------------------------------------------------------------------------
-- Places
-----------------------------------------------------------------------------------------

/-- The number of elements among the texts of values: of all texts but the orders. -/
def elementCount (texts : List String) : Nat :=
  texts.countP (· ∉ orderMarkers)

/-- The texts of values mean so many elements, by induction on the texts. -/
theorem length_elements_of_mapM {texts : List String} {items : List FlatItem}
    (meant : texts.mapM flatItem = .ok items)
    : (items.filterMap FlatItem.element?).length = elementCount texts := by
  rw [mapM_eq_ok] at meant
  induction meant with
  | nil => rfl
  | @cons text item texts items first _ ih =>
      rw [elementCount] at ih ⊢
      cases item with
      | order order =>
          have marked := (mem_orderMarkers_iff first).mpr ⟨order, rfl⟩
          rw [List.filterMap_cons_none rfl, ih, List.countP_cons_of_neg (by simpa using marked)]
      | element element =>
          have plain := (notMem_orderMarkers_iff first).mpr ⟨element, rfl⟩
          have chosen : FlatItem.element? (.element element) = some element := rfl
          rw [List.filterMap_cons_some chosen, List.length_cons, ih,
            List.countP_cons_of_pos (by simpa using plain)]

/-- An item that is chosen comes right after those that are chosen before it. -/
theorem getElem?_filterMap {α β : Type} {choose : α → Option β} {items : List α} {position : Nat}
    {item : α} {value : β} (shown : items[position]? = some item)
    (chosen : choose item = some value)
    : (items.filterMap choose)[((items.take position).filterMap choose).length]? = some value := by
  obtain ⟨inside, same⟩ := List.getElem?_eq_some_iff.mp shown
  have split : items.filterMap choose
      = (items.take position).filterMap choose
        ++ value :: (items.drop (position + 1)).filterMap choose := by
    rw [← List.filterMap_cons_some chosen, ← same, List.getElem_cons_drop, ← List.filterMap_append,
      List.take_append_drop]
  rw [split, List.getElem?_append_right (Nat.le_refl _), Nat.sub_self, List.getElem?_cons_zero]

-----------------------------------------------------------------------------------------
-- Lists of texts
-----------------------------------------------------------------------------------------

variable {texts : List String} {text : String} {position : Nat}

/-- A term refers to the member it spells exactly if it is no marker. -/
theorem term_refers_iff {terms : List Element} (meant : texts.mapM term = .ok terms)
    (shown : texts[position]? = some text)
    : terms[position]? = some (.field text) ↔ text ∉ markers := by
  rcases getElem?_cases_of_mapM meant position
    with ⟨absent, _⟩ | ⟨other, element, same, read, first⟩
  · nomatch absent.symm.trans shown
  · obtain rfl := Option.some.inj (same.symm.trans shown)
    have first := term_eq_ok.mp first
    rw [read, Option.some.injEq]
    constructor
    · intro refers
      exact notMem_markers_of_flatItem (refers ▸ first)
    · intro unmarked
      exact FlatItem.element.inj (flatItem_of_notMem_markers first unmarked)

/-- A text among values refers to the member it spells exactly if it is no marker. Its place among
the elements is the number of those before it.
-/
theorem value_refers_iff {items : List FlatItem} {values : List SortedElement}
    (meant : texts.mapM flatItem = .ok items) (listed : SortedElement.ofFlat items = .ok values)
    (shown : texts[position]? = some text)
    : (values.map SortedElement.element)[elementCount (texts.take position)]? = some (.field text)
      ↔ text ∉ markers := by
  rw [SortedElement.elements_ofFlat listed]
  constructor
  · intro refers
    -- Wherever the element comes from, some text means it.
    obtain ⟨item, present, chosen⟩ := List.mem_filterMap.mp (List.mem_of_getElem? refers)
    obtain ⟨other, _, first⟩ := exists_of_mem_mapM meant item present
    cases item with
    | order _ => nomatch chosen
    | element element =>
        obtain rfl := Option.some.inj chosen
        exact notMem_markers_of_flatItem first
  · intro unmarked
    rcases getElem?_cases_of_mapM meant position with ⟨absent, _⟩ | ⟨other, item, same, read, first⟩
    · nomatch absent.symm.trans shown
    · obtain rfl := Option.some.inj (same.symm.trans shown)
      obtain rfl := flatItem_of_notMem_markers first unmarked
      have before : (texts.take position).mapM flatItem = .ok (items.take position) :=
        mapM_eq_ok.mpr (List.forall₂_take position (mapM_eq_ok.mp meant))
      rw [← length_elements_of_mapM before]
      exact getElem?_filterMap read rfl

/-- The texts of an index that is declared refer to the members they spell, each at its own place
among the terms or the values, exactly if they are no markers. This does not depend on the fields of
the type: one whose member is a marker is declared, but never referred to.
-/
theorem TypeEntry.refers_iff_unmarked {entry : TypeEntry} {type : TypeDeclaration}
    (declared : entry.toDeclaration = .ok type) {place : Nat} {written : IndexEntry}
    (listed : entry.indexes[place]? = some written)
    : ∃ index : IndexDeclaration,
        type.indexes[place]? = some index
        ∧ (∀ (position : Nat) (text : String),
            written.terms[position]? = some text
            → (index.terms[position]? = some (.field text) ↔ text ∉ markers))
        ∧ ∀ (position : Nat) (text : String),
            written.values[position]? = some text
            → ((index.values.map SortedElement.element)[
                  elementCount (written.values.take position)]?
                = some (.field text)
              ↔ text ∉ markers) := by
  obtain ⟨_, _, _, _, indexes, indexesDeclared, rfl⟩ := typeEntry_eq_ok.mp declared
  rcases getElem?_cases_of_mapM (indexDeclarations_eq_ok.mp indexesDeclared) place
    with ⟨absent, _⟩ | ⟨other, index, same, made, first⟩
  · simp [listed] at absent
  · obtain rfl := Option.some.inj (same.symm.trans listed)
    obtain ⟨_, terms, _, items, _, values, _, _, _, _, rfl⟩ := indexEntry_eq_ok.mp first
    exact ⟨_, made, fun _ _ => term_refers_iff terms, fun _ _ => value_refers_iff items values⟩

/-- Of two fields, one of which is named like a marker, the index refers to the other one: among the
terms and, after a value with its order, among the values.
-/
theorem TypeEntry.refers_iff_unmarked_note
    : let written : IndexEntry := { terms := ["@ref", "age"], values := ["@ts", "@reverse", "age"] }
      let entry : TypeEntry := {
        name := "Note"
        fields := [{ member := "age", alias? := none }, { member := "@ref", alias? := none }]
        indexes := [written] }
      ∃ type index,
        entry.toDeclaration = .ok type
        ∧ type.indexes[0]? = some index
        ∧ index.terms[0]? ≠ some (.field "@ref")
        ∧ index.terms[1]? = some (.field "age")
        ∧ (index.values.map SortedElement.element)[1]? = some (.field "age") := by
  intro written entry
  have declared : entry.toDeclaration = .ok _ := rfl
  have listed : entry.indexes[0]? = some written := rfl
  obtain ⟨index, made, terms, values⟩ := TypeEntry.refers_iff_unmarked declared listed
  refine ⟨_, index, declared, made, ?_, (terms 1 "age" rfl).mpr (by decide),
    (values 2 "age" rfl).mpr (by decide)⟩
  exact fun refers => (terms 0 "@ref" rfl).mp refers (by decide)

/-- A field may be declared under the name of a marker. A text that equals it is still taken for
the marker: the term is the document's own reference, and the value only sets the order of the one
before.
-/
theorem TypeEntry.member_taken_for_marker
    : let entry : TypeEntry := {
        name := "Note"
        fields := [{ member := "@ref", alias? := none }, { member := "@reverse", alias? := none }]
        indexes := [{ terms := ["@ref"], values := ["@ts", "@reverse"] }] }
      ∃ type,
        entry.toDeclaration = .ok type
        ∧ type.fields.toList.map Field.member = ["@ref", "@reverse"]
        ∧ type.indexes
          = [{
            terms := [.selfReference]
            values := [{ element := .timestamp, order := .reverse }] }]
        ∧ ∀ index ∈ type.indexes, index.members = [] := by
  intro entry
  exact ⟨_, rfl, by decide, by decide, by decide⟩

end Catalog.Manifest
