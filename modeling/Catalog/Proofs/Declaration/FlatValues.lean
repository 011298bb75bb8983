import Catalog.Declaration.Index
import Catalog.Proofs.Outcome

/-! The values of an index and their flat form.
Reading an item of the flat form either adds a value for it or sets the order of the last one. So
the values that are read have the elements of the flat form, in order, and every flat form of values
is read as those values.
-/

namespace Catalog

open Outcome

/-- The element that an item of the flat form is, if it is none of the orders. -/
def FlatItem.element? : FlatItem → Option Element
  | .element found => some found
  | .order _ => none

namespace FlatState

variable {state next : FlatState}

/-- The elements of the values read so far, in order. -/
def elements (state : FlatState) : List Element :=
  (state.values.map SortedElement.element).reverse

/-- An item adds its element, if it is one. -/
theorem elements_step {item : FlatItem} (read : state.step item = .ok next)
    : next.elements = state.elements ++ item.element?.toList := by
  obtain ⟨position, open?, closed⟩ := state
  cases item with
  | element element =>
      cases read
      simp [elements, values, FlatItem.element?]
  | order order =>
      cases open? with
      | none => nomatch read
      | some element =>
          cases read
          simp [elements, values, FlatItem.element?]

/-- Items add their elements in order, by induction on the items. -/
theorem elements_foldlM {items : List FlatItem} (read : items.foldlM step state = .ok next)
    : next.elements = state.elements ++ items.filterMap FlatItem.element? := by
  induction items generalizing state with
  | nil =>
      cases read
      exact (List.append_nil _).symm
  | cons item rest ih =>
      obtain ⟨middle, first, others⟩ := bind_eq_ok.mp read
      rw [ih others, elements_step first, List.append_assoc]
      cases added : item.element? <;> simp [added]

end FlatState

-----------------------------------------------------------------------------------------
-- Flat forms of values
-----------------------------------------------------------------------------------------

/-- Values in their flat form: after each element stands its order, which may be left out if it is
the default one.
-/
inductive FlatForm : List SortedElement → List FlatItem → Prop
  | nil : FlatForm [] []
  | plain (element : Element) {values : List SortedElement} {items : List FlatItem}
    (rest : FlatForm values items)
    : FlatForm ({ element } :: values) (.element element :: items)
  | ordered (element : Element) (order : SortOrder) {values : List SortedElement}
    {items : List FlatItem} (rest : FlatForm values items)
    : FlatForm ({ element, order } :: values) (.element element :: .order order :: items)

/-- Items in flat form add the values to those read so far, by induction on the form. -/
theorem FlatForm.foldlM_step {values : List SortedElement} {items : List FlatItem}
    (form : FlatForm values items) (state : FlatState)
    : ∃ next, items.foldlM FlatState.step state = .ok next
      ∧ next.values = values.reverse ++ state.values := by
  induction form generalizing state with
  | nil => exact ⟨state, rfl, rfl⟩
  | plain element _ ih =>
      obtain ⟨next, read, added⟩ := ih ⟨state.position + 1, some element, state.values⟩
      refine ⟨next, read, ?_⟩
      rw [added, List.reverse_cons, List.append_assoc]
      rfl
  | ordered element order _ ih =>
      obtain ⟨next, read, added⟩ :=
        ih ⟨state.position + 2, none, { element, order } :: state.values⟩
      refine ⟨next, read, ?_⟩
      rw [added, List.reverse_cons, List.append_assoc]
      rfl

/-- A flat form of values is read as those values. -/
theorem FlatForm.ofFlat_eq_ok {values : List SortedElement} {items : List FlatItem}
    (form : FlatForm values items)
    : SortedElement.ofFlat items = .ok values := by
  obtain ⟨next, read, added⟩ := form.foldlM_step ⟨0, none, []⟩
  rw [SortedElement.ofFlat, read, ok_bind, added]
  exact congrArg Except.ok (by simp [FlatState.values])

/-- The values of a flat form have its elements, in order. -/
theorem SortedElement.elements_ofFlat {items : List FlatItem} {values : List SortedElement}
    (read : ofFlat items = .ok values)
    : values.map SortedElement.element = items.filterMap FlatItem.element? := by
  obtain ⟨final, ran, same⟩ := bind_eq_ok.mp read
  cases same
  have elements := FlatState.elements_foldlM ran
  rwa [FlatState.elements, ← List.map_reverse] at elements

end Catalog
