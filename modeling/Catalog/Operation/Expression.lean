import Catalog.Expr.Data
import Catalog.Operation.Basic

/-! Operations as expressions: a call whose argument is an object of parameters.
Optional parameters and empty lists are left out; the flags of an index are always given.
-/

namespace Catalog

/-- The function that creates a collection. -/
def createCollectionFunction : String := "create_collection"

/-- The function that creates an index. -/
def createIndexFunction : String := "create_index"

/-- A parameter that is only given if it has a value. -/
def optionalParameter {α : Type} (key : String) (toExpr : α → Expr) (value : Option α)
    : List (String × Expr) :=
  match value with
  | some value => [(key, toExpr value)]
  | none => []

/-- A number of days as a literal. -/
def daysExpr (days : Days) : Expr :=
  .int (Int64.ofNat days.toNat)

/-- The expression of an operation on a collection. The parameters stand in key order. -/
def CollectionCreation.toExpr (creation : CollectionCreation) : Expr :=
  .call createCollectionFunction <| .object <|
    optionalParameter "data" Expr.ofObject creation.data?
    ++ optionalParameter "history_days" daysExpr creation.historyDays?
    ++ [("name", .string creation.name)]
    ++ optionalParameter "permissions" Expr.ofObject creation.permissions?
    ++ optionalParameter "ttl_days" daysExpr creation.ttlDays?

/-- A data field is a path into the document's data; reference and timestamp are words. -/
def IndexedField.toExpr : IndexedField → Expr
  | data name => .array [.string "data", .string name]
  | reference => .string "ref"
  | timestamp => .string "ts"

/-- The entry of a term. -/
def IndexedField.entryExpr (field : IndexedField) : Expr :=
  .object [("field", field.toExpr)]

/-- The entry of a value; only a reversed one says so. -/
def IndexedValue.entryExpr (value : IndexedValue) : Expr :=
  .object (("field", value.field.toExpr)
    :: if value.reverse then [("reverse", .bool true)] else [])

/-- A list parameter, which is left out when empty. -/
def listParameter {α : Type} (key : String) (toExpr : α → Expr) (items : List α)
    : List (String × Expr) :=
  if items.isEmpty then [] else [(key, .array (items.map toExpr))]

/-- The expression of an operation on an index. The parameters stand in key order. -/
def IndexCreation.toExpr (creation : IndexCreation) : Expr :=
  .call createIndexFunction <| .object <|
    optionalParameter "data" Expr.ofObject creation.data?
    ++ [("name", .string creation.name)]
    ++ optionalParameter "permissions" Expr.ofObject creation.permissions?
    ++ [("serialized", .bool creation.serialized), ("source", .collection creation.source)]
    ++ listParameter "terms" IndexedField.entryExpr creation.terms
    ++ [("unique", .bool creation.unique)]
    ++ listParameter "values" IndexedValue.entryExpr creation.values

/-- The expression of an operation. -/
def Operation.toExpr : Operation → Expr
  | createCollection creation => creation.toExpr
  | createIndex creation => creation.toExpr

/-- Operations in their wire form, as a JSON array. -/
def Operation.render (operations : List Operation) : Json :=
  .array (operations.map fun operation => operation.toExpr.toWire)

/-! Reading an operation back from an expression. Parameters of other names are passed over. -/

/-- The parameters of a call to the given function. -/
def Expr.parameters (function : String) (expr : Expr) : Except Error (Entries Expr) :=
  match (expr.argumentOf? function).bind Expr.object? with
  | some parameters => .ok parameters
  | none => .error (.invalidExpr (.callOnObject function) (.expr expr))

/-- The parameter under a key, which has to be given. -/
def requireParameter (parameters : Entries Expr) (key : String) : Except Error Expr :=
  match parameters.find? key with
  | some value => .ok value
  | none => .error (.invalidExpr (.property key) .nothing)

/-- A string parameter. -/
def stringParameter (parameters : Entries Expr) (key : String) : Except Error String := do
  match ← requireParameter parameters key with
  | .string value => return value
  | other => throw (.invalidExpr (.stringIn key) (.kind other.kind))

/-- The number of days that a literal gives. -/
def Expr.days? : Expr → Option Days
  | .int value => Number.uint32? value.toInt
  | _ => none

/-- An optional day count. -/
def daysParameter (parameters : Entries Expr) (key : String)
    : Except Error (Option Days) :=
  match parameters.find? key with
  | none => .ok none
  | some value =>
    match value.days? with
    | some days => .ok (some days)
    | none => .error (.invalidExpr (.daysIn key) (.expr value))

/-- An optional flag. -/
def flagParameter (parameters : Entries Expr) (key : String)
    : Except Error (Option Bool) :=
  match parameters.find? key with
  | none => .ok none
  | some value =>
    match value.bool? with
    | some flag => .ok (some flag)
    | none => .error (.invalidExpr (.boolIn key) (.expr value))

/-- An optional JSON object. -/
def objectParameter (parameters : Entries Expr) (key : String)
    : Except Error (Option JsonObject) :=
  match parameters.find? key with
  | none => .ok none
  | some value => return some (← value.toObject)

/-- An optional list; without one there are no items. -/
def itemsParameter {α : Type} (parameters : Entries Expr) (key : String)
    (ofExpr : Expr → Except Error α) : Except Error (List α) :=
  match parameters.find? key with
  | none => .ok []
  | some value =>
    match value.array? with
    | some items => items.mapM ofExpr
    | none => .error (.invalidExpr (.arrayIn key) (.kind value.kind))

/-- Reads an operation on a collection. -/
def CollectionCreation.ofExpr (expr : Expr) : Except Error CollectionCreation := do
  let parameters ← expr.parameters createCollectionFunction
  return {
    name := ← stringParameter parameters "name"
    historyDays? := ← daysParameter parameters "history_days"
    ttlDays? := ← daysParameter parameters "ttl_days"
    data? := ← objectParameter parameters "data"
    permissions? := ← objectParameter parameters "permissions" }

/-- Reads what a term or value points at. -/
def IndexedField.ofExpr (expr : Expr) : Except Error IndexedField :=
  match expr with
  | .string word =>
    if word = "ref" then .ok reference
    else if word = "ts" then .ok timestamp
    else .error (.invalidExpr .indexField (.expr expr))
  | .array [.string root, .string name] =>
    if root = "data" then .ok (data name) else .error (.invalidExpr .fieldPath (.expr expr))
  | .array _ => .error (.invalidExpr .fieldPath (.expr expr))
  | _ => .error (.invalidExpr .indexField (.expr expr))

/-- The entries of a term or value. -/
def Expr.entry (expr : Expr) : Except Error (Entries Expr) :=
  match expr.object? with
  | some entries => .ok entries
  | none => .error (.invalidExpr .entryObject (.expr expr))

/-- Reads the entry of a term. -/
def IndexedField.ofEntry (expr : Expr) : Except Error IndexedField := do
  ofExpr (← requireParameter (← expr.entry) "field")

/-- Reads the entry of a value. -/
def IndexedValue.ofEntry (expr : Expr) : Except Error IndexedValue := do
  let entry ← expr.entry
  return {
    field := ← IndexedField.ofExpr (← requireParameter entry "field")
    reverse := (← flagParameter entry "reverse").getD false }

/-- The source collection of an index, which is given by a reference. -/
def sourceParameter (expr : Expr) (parameters : Entries Expr) : Except Error String :=
  match ((parameters.find? "source").bind (Expr.argumentOf? Expr.collectionFunction)).bind
      Expr.string? with
  | some name => .ok name
  | none => .error (.invalidExpr .collectionReference (.expr expr))

/-- Reads an operation on an index. -/
def IndexCreation.ofExpr (expr : Expr) : Except Error IndexCreation := do
  let parameters ← expr.parameters createIndexFunction
  let source ← sourceParameter expr parameters
  let terms ← itemsParameter parameters "terms" IndexedField.ofEntry
  let values ← itemsParameter parameters "values" IndexedValue.ofEntry
  return {
    name := ← stringParameter parameters "name"
    source, terms, values
    unique := (← flagParameter parameters "unique").getD false
    serialized := (← flagParameter parameters "serialized").getD true
    data? := ← objectParameter parameters "data"
    permissions? := ← objectParameter parameters "permissions" }

/-- Reads a schema operation. -/
def Operation.ofExpr (expr : Expr) : Except Error Operation :=
  match expr with
  | .call function _ =>
    if function = createCollectionFunction then
      return createCollection (← CollectionCreation.ofExpr expr)
    else if function = createIndexFunction then
      return createIndex (← IndexCreation.ofExpr expr)
    else .error (.invalidExpr .operation (.expr expr))
  | _ => .error (.invalidExpr .operation (.expr expr))

end Catalog
