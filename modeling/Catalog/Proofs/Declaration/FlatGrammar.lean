import Catalog.Proofs.Declaration.FlatValues

/-! Which items are a flat form of values.
Items are read exactly if every order among them comes right after an element. The invariant ties
the state of the reading to the items before it: the value that an order may still change is open
exactly if the last of these items is an element.
-/

namespace Catalog

open Outcome

namespace FlatItem

/-- The order that an item of the flat form is, if it is none of the elements. -/
def order? : FlatItem → Option SortOrder
  | .order found => some found
  | .element _ => none

/-- An order stands at the position, and no element right before it. -/
def DanglesAt (items : List FlatItem) (position : Nat) : Prop :=
  (∃ order, items[position]? = some (.order order))
  ∧ ¬∃ before element, position = before + 1 ∧ items[before]? = some (.element element)

/-- The values that items list: one for each element, in the order that stands right after it if
one does, and in the default order otherwise.
-/
def values : List FlatItem → List SortedElement
  | [] => []
  | .element found :: rest =>
    { element := found, order := (rest.head?.bind order?).getD .default } :: values rest
  | .order _ :: rest => values rest

variable {items before after : List FlatItem} {position : Nat} {item : FlatItem}

-----------------------------------------------------------------------------------------
-- Items that follow others
-----------------------------------------------------------------------------------------

/-- An element ends the values before it, which no later item changes; by induction on the items
before it.
-/
theorem values_append_element (before after : List FlatItem) (found : Element)
    : values (before ++ .element found :: after)
      = values before ++ values (.element found :: after) := by
  induction before with
  | nil => rfl
  | cons item rest ih =>
      cases item with
      | order _ => simpa only [List.cons_append, values] using ih
      | element _ =>
          cases rest with
          | nil => simp [values, order?]
          | cons next others => simpa [values] using ih

/-- Only the items up to a position decide whether an order dangles there. -/
theorem danglesAt_append (inside : position < before.length)
    : DanglesAt (before ++ after) position ↔ DanglesAt before position := by
  rw [DanglesAt, DanglesAt, List.getElem?_append_left inside]
  apply and_congr_right
  intro _
  apply not_congr
  apply exists_congr
  intro previous
  apply exists_congr
  intro shown
  apply and_congr_right
  intro next
  rw [List.getElem?_append_left (by omega)]

/-- The item after some others dangles exactly if it is an order and the last of them is no element.
-/
theorem danglesAt_length
    : DanglesAt (before ++ item :: after) before.length
      ↔ (∃ order, item = .order order) ∧ before.getLast?.bind element? = none := by
  have last : (∃ previous element, before.length = previous + 1
        ∧ (before ++ item :: after)[previous]? = some (.element element))
      ↔ ∃ element, before.getLast?.bind element? = some element := by
    rcases List.eq_nil_or_concat before with empty | ⟨init, previous, split⟩
    · simp [empty]
    · subst before
      cases previous <;> simp [element?]
  rw [DanglesAt, last]
  simp [Option.eq_none_iff_forall_ne_some]

theorem lt_length_of_danglesAt (dangles : DanglesAt items position) : position < items.length := by
  obtain ⟨⟨order, found⟩, _⟩ := dangles
  exact (List.getElem?_eq_some_iff.mp found).1

end FlatItem

namespace FlatState

open FlatItem

variable {state next : FlatState} {before : List FlatItem} {item : FlatItem}

-----------------------------------------------------------------------------------------
-- The state after some items
-----------------------------------------------------------------------------------------

/-- The state stands for the items that have been read: their values are those read so far, the last
of which is open if its element is the last item, and no order among them dangles.
-/
structure Reads (state : FlatState) (before : List FlatItem) : Prop where
  position : state.position = before.length
  open_eq : state.open? = before.getLast?.bind element?
  values_eq : state.values.reverse = FlatItem.values before
  attached : ∀ position, ¬DanglesAt before position

theorem reads_nil : Reads ⟨0, none, []⟩ [] where
  position := rfl
  open_eq := rfl
  values_eq := rfl
  attached position dangles := absurd (lt_length_of_danglesAt dangles) (Nat.not_lt_zero position)

/-- If the next item does not dangle, no order up to it does. -/
theorem Reads.attached_concat (reads : state.Reads before)
    (follows : ¬DanglesAt (before ++ [item]) before.length)
    : ∀ position, ¬DanglesAt (before ++ [item]) position := by
  intro position dangles
  have bound := lt_length_of_danglesAt dangles
  rw [List.length_append, List.length_singleton] at bound
  rcases Nat.lt_succ_iff_lt_or_eq.mp bound with inside | last
  · exact reads.attached position ((danglesAt_append inside).mp dangles)
  · subst position
    exact follows dangles

/-- An item that is read is one more item that the state stands for, by cases of the item: an element
opens a value, and an order closes the one that is open.
-/
theorem Reads.step (reads : state.Reads before) (read : state.step item = .ok next)
    : next.Reads (before ++ [item]) := by
  obtain ⟨at_length, open_eq, values_eq, attached⟩ := reads
  cases item with
  | element element =>
      obtain rfl : ⟨state.position + 1, some element, state.values⟩ = next := Except.ok.inj read
      refine ⟨by simp [at_length], by simp [element?], ?_, ?_⟩
      · rw [values_append_element, ← values_eq]
        simp [FlatState.values, FlatItem.values]
      · apply Reads.attached_concat ⟨at_length, open_eq, values_eq, attached⟩
        simp [danglesAt_length]
  | order order =>
      obtain ⟨position, open?, closed⟩ := state
      cases open? with
      | none => cases read
      | some element =>
          obtain rfl : ⟨position + 1, none, { element, order } :: closed⟩ = next :=
            Except.ok.inj read
          refine ⟨by simpa using at_length, by simp [element?], ?_, ?_⟩
          · -- The open value is the last one, so the items before its element list the others.
            obtain ⟨previous, last, found⟩ := Option.bind_eq_some_iff.mp open_eq.symm
            cases previous with
            | order _ => cases found
            | element same =>
                obtain rfl := Option.some.inj found
                obtain ⟨init, split⟩ := List.getLast?_eq_some_iff.mp last
                subst before
                rw [values_append_element] at values_eq
                have others : closed.reverse = FlatItem.values init := by
                  simpa [FlatState.values, FlatItem.values] using values_eq
                rw [List.append_assoc, List.singleton_append, values_append_element, ← others]
                simp [FlatState.values, FlatItem.values, order?]
          · apply Reads.attached_concat ⟨at_length, open_eq, values_eq, attached⟩
            simp [danglesAt_length, ← open_eq]

/-- An item that is refused dangles, and is reported with the number of items before it. -/
theorem Reads.refuses (reads : state.Reads before) {error : Error}
    (refused : state.step item = .error error) (after : List FlatItem)
    : error = .danglingOrder before.length
      ∧ DanglesAt (before ++ item :: after) before.length := by
  obtain ⟨at_length, open_eq, _, _⟩ := reads
  obtain ⟨position, open?, closed⟩ := state
  cases item with
  | element element => nomatch refused
  | order order =>
      cases open? with
      | some element => nomatch refused
      | none =>
          obtain rfl : .danglingOrder position = error := Except.error.inj refused
          exact ⟨congrArg _ at_length, danglesAt_length.mpr ⟨⟨order, rfl⟩, open_eq.symm⟩⟩

/-- After all items are read the state stands for them as well, by induction on the items. -/
theorem Reads.foldlM {items : List FlatItem} (reads : state.Reads before)
    (read : items.foldlM FlatState.step state = .ok next)
    : next.Reads (before ++ items) := by
  induction items generalizing state before with
  | nil =>
      cases read
      simpa using reads
  | cons item rest ih =>
      obtain ⟨middle, first, others⟩ := bind_eq_ok.mp read
      simpa using ih (reads.step first) others

end FlatState

-----------------------------------------------------------------------------------------
-- Reading items
-----------------------------------------------------------------------------------------

namespace SortedElement

open FlatItem

variable {items : List FlatItem} {error : Error}

/-- What is read are the values that the items list, and no order dangles. -/
theorem values_of_ofFlat {values : List SortedElement} (read : ofFlat items = .ok values)
    : (∀ position, ¬DanglesAt items position) ∧ values = FlatItem.values items := by
  obtain ⟨final, ran, done⟩ := bind_eq_ok.mp read
  have reads := FlatState.reads_nil.foldlM ran
  exact ⟨reads.attached, (pure_eq_ok.mp done).symm.trans reads.values_eq⟩

/-- A reading fails at the first order that dangles, since those before it have been read. -/
theorem danglesAt_of_ofFlat (failed : ofFlat items = .error error)
    : ∃ position,
        error = .danglingOrder position
        ∧ DanglesAt items position
        ∧ ∀ earlier < position, ¬DanglesAt items earlier := by
  have stopped : items.foldlM FlatState.step ⟨0, none, []⟩ = .error error := by
    rw [ofFlat] at failed
    cases ran : items.foldlM FlatState.step ⟨0, none, []⟩ with
    | ok final => simp [ran, pure, Except.pure] at failed
    | error found => simpa [ran, bind, Except.bind] using failed
  obtain ⟨before, item, after, middle, split, passed, refused⟩ := foldlM_eq_error.mp stopped
  have reads := FlatState.reads_nil.foldlM passed
  rw [List.nil_append] at reads
  obtain ⟨same, dangles⟩ := reads.refuses refused after
  refine ⟨before.length, same, split ▸ dangles, ?_⟩
  intro earlier inside found
  rw [split, danglesAt_append inside] at found
  exact reads.attached earlier found

end SortedElement

/-- All values have a flat form, in which each of them is followed by its order; by induction on the
values.
-/
theorem exists_flatForm (values : List SortedElement) : ∃ items, FlatForm values items := by
  induction values with
  | nil => exact ⟨[], .nil⟩
  | cons value rest ih =>
      obtain ⟨items, form⟩ := ih
      exact ⟨_, .ordered value.element value.order form⟩

/-- Items are read exactly if no order among them dangles, and then as the values that they list.
Otherwise the reading fails with the position of the first order that dangles. Every list of values
has a flat form, and all its flat forms are read as that list.
-/
theorem SortedElement.ofFlat_grammar (items : List FlatItem)
    : (∀ values,
        ofFlat items = .ok values
        ↔ (∀ position, ¬FlatItem.DanglesAt items position) ∧ values = FlatItem.values items)
      ∧ (∀ error,
          ofFlat items = .error error
          ↔ ∃ position,
              error = .danglingOrder position
              ∧ FlatItem.DanglesAt items position
              ∧ ∀ earlier < position, ¬FlatItem.DanglesAt items earlier)
      ∧ ∀ values,
          (∃ written, FlatForm values written)
          ∧ (FlatForm values items → ofFlat items = .ok values) := by
  refine ⟨?_, ?_, ?_⟩
  · intro values
    constructor
    · exact values_of_ofFlat
    · intro ⟨attached, listed⟩
      cases read : ofFlat items with
      | ok found => rw [listed, (values_of_ofFlat read).2]
      | error error =>
          obtain ⟨position, _, dangles, _⟩ := danglesAt_of_ofFlat read
          exact absurd dangles (attached position)
  · intro error
    constructor
    · exact danglesAt_of_ofFlat
    · intro ⟨position, same, dangles, first⟩
      cases read : ofFlat items with
      | ok found => exact absurd dangles ((values_of_ofFlat read).1 position)
      | error stopped =>
          -- Two positions that are both the first one are equal.
          obtain ⟨other, reported, otherDangles, otherFirst⟩ := danglesAt_of_ofFlat read
          have least : other = position := by
            rcases Nat.lt_trichotomy other position with less | equal | more
            · exact absurd otherDangles (first other less)
            · exact equal
            · exact absurd dangles (otherFirst position more)
          rw [reported, same, least]
  · intro values
    exact ⟨exists_flatForm values, FlatForm.ofFlat_eq_ok⟩

/-- The second of two orders in a row is reported, since the first one has closed the value. -/
example
    : SortedElement.ofFlat [.element .timestamp, .order .reverse, .order .default]
      = .error (.danglingOrder 2) := by
  rfl

end Catalog
