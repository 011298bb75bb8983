import Catalog.Json.Reading
import Catalog.Proofs.EntryOrder

/-! JSON values whose objects are in key order at every depth.
These are the values that readings have, and each of them is the value of its own reading.
-/

namespace Catalog.Json

mutual

/-- The keys of every object in a value are in strictly increasing order. -/
def InKeyOrder : Json → Prop
  | null | bool _ | number _ | string _ => True
  | array items => InKeyOrderItems items
  | object entries => Entries.Ordered entries ∧ InKeyOrderEntries entries

/-- All items of an array are in key order. -/
def InKeyOrderItems : List Json → Prop
  | [] => True
  | item :: rest => item.InKeyOrder ∧ InKeyOrderItems rest

/-- All values of an object are in key order. -/
def InKeyOrderEntries : List (String × Json) → Prop
  | [] => True
  | entry :: rest => entry.2.InKeyOrder ∧ InKeyOrderEntries rest

end

/-- The values of an object are in key order exactly if each of them is, by list induction. -/
theorem inKeyOrderEntries_iff {entries : List (String × Json)}
    : InKeyOrderEntries entries ↔ ∀ entry ∈ entries, entry.2.InKeyOrder := by
  induction entries with
  | nil => exact ⟨fun _ => nofun, fun _ => trivial⟩
  | cons entry rest ih => rw [InKeyOrderEntries, ih, List.forall_mem_cons]

theorem toReadings_eq_map (items : List Json) : toReadings items = items.map toReading := by
  induction items with
  | nil => rfl
  | cons item rest ih => rw [toReadings, ih, List.map_cons]

mutual

/-- A value in key order is the value of its reading, by recursion on it. -/
theorem value?_toReading (value : Json) (inOrder : value.InKeyOrder)
    : value.toReading.value? = some value := by
  cases value with
  | null | bool _ | number _ | string _ => rfl
  | array items =>
      rw [toReading, Reading.value?, values?_toReadings items inOrder, Option.map_some]
  | object entries =>
      obtain ⟨ordered, inOrder⟩ := inOrder
      rw [toReading, Reading.value?, entryValues?_toEntryReadings entries inOrder, Option.map_some,
        Function.comp_apply, ordered.ofList_eq]

/-- Items in key order are the values of their readings. -/
theorem values?_toReadings (items : List Json) (inOrder : InKeyOrderItems items)
    : Reading.values? (toReadings items) = some items := by
  cases items with
  | nil => rfl
  | cons item rest =>
      obtain ⟨first, others⟩ := inOrder
      simp only [toReadings, Reading.values?, value?_toReading item first,
        values?_toReadings rest others, Option.bind_eq_bind, Option.bind_some, Option.pure_def]

/-- Entries in key order are the entries of their readings. -/
theorem entryValues?_toEntryReadings (entries : List (String × Json))
    (inOrder : InKeyOrderEntries entries)
    : Reading.entryValues? (toEntryReadings entries) = some entries := by
  cases entries with
  | nil => rfl
  | cons entry rest =>
      obtain ⟨key, value⟩ := entry
      obtain ⟨first, others⟩ := inOrder
      simp only [toEntryReadings, Reading.entryValues?, value?_toReading value first,
        entryValues?_toEntryReadings rest others, Option.bind_eq_bind, Option.bind_some,
        Option.pure_def]

end

mutual

/-- The value of a reading is in key order, by recursion on the reading. -/
theorem inKeyOrder_of_value? (reading : Reading) (value : Json)
    (read : reading.value? = some value)
    : value.InKeyOrder := by
  cases reading with
  | malformed | deep _ => nomatch read
  | null | bool _ => exact Option.some.inj read ▸ trivial
  | number _ | string _ =>
      obtain ⟨_, _, rfl⟩ := Option.map_eq_some_iff.mp read
      trivial
  | array items =>
      obtain ⟨values, found, rfl⟩ := Option.map_eq_some_iff.mp read
      exact inKeyOrderItems_of_values? items values found
  | object entries =>
      obtain ⟨values, found, rfl⟩ := Option.map_eq_some_iff.mp read
      have inOrder := inKeyOrderEntries_of_entryValues? entries values found
      refine ⟨Entries.ordered_ofList values, inKeyOrderEntries_iff.mpr fun entry member => ?_⟩
      exact inKeyOrderEntries_iff.mp inOrder entry (Entries.mem_of_mem_ofList member)

/-- The values of items are in key order. -/
theorem inKeyOrderItems_of_values? (items : List Reading) (values : List Json)
    (read : Reading.values? items = some values)
    : InKeyOrderItems values := by
  cases items with
  | nil => exact Option.some.inj read ▸ trivial
  | cons item rest =>
      obtain ⟨value, first, read⟩ := Option.bind_eq_some_iff.mp read
      obtain ⟨later, others, read⟩ := Option.bind_eq_some_iff.mp read
      obtain rfl := Option.some.inj read
      exact ⟨inKeyOrder_of_value? item value first, inKeyOrderItems_of_values? rest later others⟩

/-- The values of entries are in key order. -/
theorem inKeyOrderEntries_of_entryValues? (entries : List (Option String × Reading))
    (values : List (String × Json)) (read : Reading.entryValues? entries = some values)
    : InKeyOrderEntries values := by
  cases entries with
  | nil => exact Option.some.inj read ▸ trivial
  | cons entry rest =>
      obtain ⟨key, _, read⟩ := Option.bind_eq_some_iff.mp read
      obtain ⟨value, first, read⟩ := Option.bind_eq_some_iff.mp read
      obtain ⟨later, others, read⟩ := Option.bind_eq_some_iff.mp read
      obtain rfl := Option.some.inj read
      exact ⟨inKeyOrder_of_value? entry.2 value first,
        inKeyOrderEntries_of_entryValues? rest later others⟩

end

end Catalog.Json
