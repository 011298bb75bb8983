import Catalog.Operation.Expression
import Catalog.Proofs.Expr.LiteralData

/-! Operations survive their wire form.
Each parameter is looked up among the parameters that were written, so an operation is read
back from its expression; the expression is canonical, so it is read back from its wire form.
-/

namespace Catalog

open Outcome

-----------------------------------------------------------------------------------------
-- Looking up what was written
-----------------------------------------------------------------------------------------

/-- An optional parameter is found under its own key if it has a value. -/
theorem find?_optionalParameter {α : Type} (name key : String) (toExpr : α → Expr)
    (value : Option α)
    : Entries.find? name (optionalParameter key toExpr value)
      = if name = key then value.map toExpr else none := by
  cases value <;> simp [optionalParameter, Entries.find?]

/-- A list parameter is found under its own key unless the list is empty. -/
theorem find?_listParameter {α : Type} (name key : String) (toExpr : α → Expr) (items : List α)
    : Entries.find? name (listParameter key toExpr items)
      = if name = key ∧ items ≠ [] then some (.array (items.map toExpr)) else none := by
  cases items <;> simp [listParameter, Entries.find?]

/-- A number of days is read back from its literal, as a word of 32 bits fits one of 64. -/
theorem days?_daysExpr (days : Days) : (daysExpr days).days? = some days := by
  have small := days.toNat_lt
  rw [daysExpr, Expr.days?, Number.uint32?_eq_some_iff, Int64.toInt_ofNat_of_lt (by omega)]

variable {parameters : Entries Expr} {key : String}

/-- A string is read back from under its key. -/
theorem stringParameter_of_find {value : String}
    (found : parameters.find? key = some (.string value))
    : stringParameter parameters key = .ok value := by
  simp only [stringParameter, requireParameter, found]
  rfl

/-- An optional day count is read back, by whether it was given. -/
theorem daysParameter_of_find {days? : Option Days}
    (found : parameters.find? key = days?.map daysExpr)
    : daysParameter parameters key = .ok days? := by
  cases days? with
  | none => simp only [daysParameter, found, Option.map_none]
  | some days => simp only [daysParameter, found, Option.map_some, days?_daysExpr]

/-- An optional object is read back, by whether it was given. -/
theorem objectParameter_of_find {object? : Option JsonObject}
    (found : parameters.find? key = object?.map Expr.ofObject)
    : objectParameter parameters key = .ok object? := by
  cases object? with
  | none => simp only [objectParameter, found, Option.map_none]
  | some object =>
      simp only [objectParameter, found, Option.map_some, Expr.toObject_ofObject]
      rfl

/-- A flag that was given is read back. -/
theorem flagParameter_of_find {flag : Bool} (found : parameters.find? key = some (.bool flag))
    : flagParameter parameters key = .ok (some flag) := by
  simp only [flagParameter, found, Expr.bool?]

/-- Items are read back one by one when each of them is. -/
theorem mapM_ofExpr_map {α : Type} {toExpr : α → Expr} {ofExpr : Expr → Except Error α}
    (inverse : ∀ item, ofExpr (toExpr item) = .ok item) (items : List α)
    : (items.map toExpr).mapM ofExpr = .ok items := by
  rw [mapM_eq_ok, List.forall₂_map_left_iff, List.forall₂_same]
  exact fun item _ => inverse item

/-- A list is read back when each of its items is, whether it was left out or not. -/
theorem itemsParameter_of_find {α : Type} {toExpr : α → Expr}
    {ofExpr : Expr → Except Error α} {items : List α}
    (inverse : ∀ item, ofExpr (toExpr item) = .ok item)
    (found : parameters.find? key
      = if items ≠ [] then some (.array (items.map toExpr)) else none)
    : itemsParameter parameters key ofExpr = .ok items := by
  by_cases empty : items = []
  · subst empty
    simp only [itemsParameter, found, ne_eq, not_true_eq_false, if_false]
  · simp only [itemsParameter, found, ne_eq, empty, not_false_eq_true, if_true, Expr.array?]
    exact mapM_ofExpr_map inverse items

-----------------------------------------------------------------------------------------
-- Reading operations back
-----------------------------------------------------------------------------------------

/-- What a term or value points at is read back, by its cases. -/
theorem IndexedField.ofExpr_toExpr (field : IndexedField) : ofExpr field.toExpr = .ok field := by
  cases field <;> simp [toExpr, ofExpr]

/-- The entry of a term is read back. -/
theorem IndexedField.ofEntry_entryExpr (field : IndexedField)
    : ofEntry field.entryExpr = .ok field := by
  have found : Entries.find? "field" [("field", field.toExpr)] = some field.toExpr := rfl
  simp only [ofEntry, entryExpr, Expr.entry, Expr.object?, requireParameter, ok_bind, found]
  exact ofExpr_toExpr field

/-- The entry of a value is read back, by whether it is reversed. -/
theorem IndexedValue.ofEntry_entryExpr (value : IndexedValue)
    : ofEntry value.entryExpr = .ok value := by
  obtain ⟨field, reverse⟩ := value
  cases reverse <;>
    simp [ofEntry, entryExpr, Expr.entry, Expr.object?, requireParameter, flagParameter,
      Entries.find?, IndexedField.ofExpr_toExpr, Expr.bool?]

/-- The parameters of a call are the entries of its argument. -/
theorem parameters_call (function : String) (entries : Entries Expr)
    : Expr.parameters function (.call function (.object entries)) = .ok entries := by
  simp only [Expr.parameters, Expr.argumentOf?, if_true, Option.bind_some, Expr.object?]

/-- The parameters of an operation on a collection stand under their own keys. -/
theorem CollectionCreation.toExpr_parameters (creation : CollectionCreation)
    : ∃ parameters : Entries Expr,
        creation.toExpr = .call createCollectionFunction (.object parameters)
        ∧ parameters.find? "name" = some (.string creation.name)
        ∧ parameters.find? "history_days" = creation.historyDays?.map daysExpr
        ∧ parameters.find? "ttl_days" = creation.ttlDays?.map daysExpr
        ∧ parameters.find? "data" = creation.data?.map Expr.ofObject
        ∧ parameters.find? "permissions" = creation.permissions?.map Expr.ofObject := by
  refine ⟨_, rfl, ?_, ?_, ?_, ?_, ?_⟩
  all_goals
    simp [Entries.find?_append, find?_optionalParameter, Entries.find?]

/-- The parameters of an operation on an index stand under their own keys; empty lists are left
out.
-/
theorem IndexCreation.toExpr_parameters (creation : IndexCreation)
    : ∃ parameters : Entries Expr,
        creation.toExpr = .call createIndexFunction (.object parameters)
        ∧ parameters.find? "name" = some (.string creation.name)
        ∧ parameters.find? "source" = some (.collection creation.source)
        ∧ parameters.find? "terms"
          = (if creation.terms ≠ [] then
              some (.array (creation.terms.map IndexedField.entryExpr))
            else none)
        ∧ parameters.find? "values"
          = (if creation.values ≠ [] then
              some (.array (creation.values.map IndexedValue.entryExpr))
            else none)
        ∧ parameters.find? "unique" = some (.bool creation.unique)
        ∧ parameters.find? "serialized" = some (.bool creation.serialized)
        ∧ parameters.find? "data" = creation.data?.map Expr.ofObject
        ∧ parameters.find? "permissions" = creation.permissions?.map Expr.ofObject := by
  refine ⟨_, rfl, ?_, ?_, ?_, ?_, ?_, ?_, ?_, ?_⟩
  all_goals
    simp [Entries.find?_append, find?_optionalParameter, find?_listParameter, Entries.find?]

/-- An operation on a collection is read back, parameter by parameter. -/
theorem CollectionCreation.ofExpr_toExpr (creation : CollectionCreation)
    : ofExpr creation.toExpr = .ok creation := by
  obtain ⟨parameters, written, name, history, ttl, data, permissions⟩ :=
    creation.toExpr_parameters
  simp only [ofExpr, written, parameters_call, stringParameter_of_find name,
    daysParameter_of_find history, daysParameter_of_find ttl, objectParameter_of_find data,
    objectParameter_of_find permissions, ok_bind]
  rfl

/-- The source of an index is read back from its reference. -/
theorem sourceParameter_of_find {expr : Expr} {source : String}
    (found : parameters.find? "source" = some (.collection source))
    : sourceParameter expr parameters = .ok source := by
  simp only [sourceParameter, found, Option.bind_some, Expr.collection, Expr.argumentOf?,
    if_true, Expr.string?]

/-- An operation on an index is read back, parameter by parameter. -/
theorem IndexCreation.ofExpr_toExpr (creation : IndexCreation)
    : ofExpr creation.toExpr = .ok creation := by
  obtain ⟨parameters, written, name, source, terms, values, unique, serialized, data,
    permissions⟩ := creation.toExpr_parameters
  simp only [ofExpr, written, parameters_call, sourceParameter_of_find source,
    itemsParameter_of_find IndexedField.ofEntry_entryExpr terms,
    itemsParameter_of_find IndexedValue.ofEntry_entryExpr values, stringParameter_of_find name,
    flagParameter_of_find unique, flagParameter_of_find serialized, objectParameter_of_find data,
    objectParameter_of_find permissions, ok_bind]
  rfl

/-- Every operation is read back from its expression, by the function that is called. -/
theorem Operation.ofExpr_toExpr (operation : Operation)
    : Operation.ofExpr operation.toExpr = .ok operation := by
  cases operation with
  | createCollection creation =>
      obtain ⟨parameters, written, _⟩ := creation.toExpr_parameters
      have read := creation.ofExpr_toExpr
      rw [written] at read
      simp only [Operation.toExpr, written, Operation.ofExpr, if_true, read]
      rfl
  | createIndex creation =>
      obtain ⟨parameters, written, _⟩ := creation.toExpr_parameters
      have read := creation.ofExpr_toExpr
      have other : createIndexFunction ≠ createCollectionFunction := by decide
      rw [written] at read
      simp only [Operation.toExpr, written, Operation.ofExpr, if_neg other, if_true, read]
      rfl

-----------------------------------------------------------------------------------------
-- Operations as canonical expressions
-----------------------------------------------------------------------------------------

/-- An optional parameter is canonical if its value is, whether it is given or not. -/
theorem optionalParameter_canonical {α : Type} {toExpr : α → Expr}
    (canonical : ∀ value, (toExpr value).Canonical) (key : String) (value : Option α)
    : Expr.CanonicalEntries (optionalParameter key toExpr value) := by
  cases value with
  | none => trivial
  | some value => exact ⟨canonical value, trivial⟩

/-- A list parameter is canonical if its items are. -/
theorem listParameter_canonical {α : Type} {toExpr : α → Expr}
    (canonical : ∀ item, (toExpr item).Canonical) (key : String) (items : List α)
    : Expr.CanonicalEntries (listParameter key toExpr items) := by
  have each : Expr.CanonicalItems (items.map toExpr) := by
    rw [Expr.CanonicalItems, Expr.everywhereInItems_iff]
    intro expr member
    obtain ⟨item, _, rfl⟩ := List.mem_map.mp member
    exact canonical item
  cases items with
  | nil => trivial
  | cons item rest => exact ⟨⟨trivial, each⟩, trivial⟩

/-- The literal of a number of days is canonical. -/
theorem daysExpr_canonical (days : Days) : (daysExpr days).Canonical :=
  trivial

/-- The expression of what a term or value points at is canonical. -/
theorem IndexedField.toExpr_canonical (field : IndexedField) : field.toExpr.Canonical := by
  cases field with
  | data name => exact ⟨trivial, trivial, trivial, trivial⟩
  | reference | timestamp => trivial

/-- The entry of a term is canonical. -/
theorem IndexedField.entryExpr_canonical (field : IndexedField) : field.entryExpr.Canonical :=
  ⟨trivial, field.toExpr_canonical, trivial⟩

/-- The entry of a value is canonical, by whether it is reversed. -/
theorem IndexedValue.entryExpr_canonical (value : IndexedValue) : value.entryExpr.Canonical := by
  obtain ⟨field, reverse⟩ := value
  cases reverse with
  | false => exact ⟨trivial, field.toExpr_canonical, trivial⟩
  | true => exact ⟨trivial, field.toExpr_canonical, trivial, trivial⟩

/-- The expression of an operation is canonical: the functions that it calls are not the
wrapper of literals, and the data that it carries is literal.
-/
theorem Operation.toExpr_canonical (operation : Operation) : operation.toExpr.Canonical := by
  have object := optionalParameter_canonical Expr.ofObject_canonical
  have days := optionalParameter_canonical daysExpr_canonical
  have terms := listParameter_canonical IndexedField.entryExpr_canonical
  have values := listParameter_canonical IndexedValue.entryExpr_canonical
  cases operation with
  | createCollection creation =>
      have ordinary : createCollectionFunction ≠ Expr.objectKey := by decide
      refine ⟨ordinary, trivial, ?_⟩
      simp only [Expr.everywhereInEntries_append]
      exact ⟨⟨⟨⟨object _ _, days _ _⟩, trivial, trivial⟩, object _ _⟩, days _ _⟩
  | createIndex creation =>
      have ordinary : createIndexFunction ≠ Expr.objectKey := by decide
      have reference : Expr.collectionFunction ≠ Expr.objectKey := by decide
      have source : (Expr.collection creation.source).Canonical := ⟨reference, trivial⟩
      refine ⟨ordinary, trivial, ?_⟩
      simp only [Expr.everywhereInEntries_append]
      exact ⟨⟨⟨⟨⟨⟨object _ _, trivial, trivial⟩, object _ _⟩, trivial, source, trivial⟩,
        terms _ _⟩, trivial, trivial⟩, values _ _⟩

/-- Operations of any number are recovered from their rendering: it is an array with one item
for each operation, and the item in each place reads as an expression that reads as the
operation in that place.
-/
theorem Operation.render_recoverable (operations : List Operation)
    : ∃ items,
        Operation.render operations = .array items
        ∧ items.length = operations.length
        ∧ List.Forall₂
            (fun wire operation =>
              ∃ expr, Expr.ofWire wire = .ok expr ∧ Operation.ofExpr expr = .ok operation)
            items operations := by
  refine ⟨_, rfl, List.length_map _, ?_⟩
  rw [List.forall₂_map_left_iff, List.forall₂_same]
  intro operation _
  exact ⟨operation.toExpr, Expr.ofWire_toWire _ operation.toExpr_canonical,
    operation.ofExpr_toExpr⟩

end Catalog
