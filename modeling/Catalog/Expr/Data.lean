import Catalog.Error
import Catalog.Json.Reading

/-! JSON data as literal expressions, and back.
Every JSON value is a literal; an expression is data only if it calls no function.
-/

namespace Catalog

namespace Expr

/-- A number as a literal: a signed integer if it fits one, else an unsigned one. -/
def ofNumber : Json.Number → Expr
  | .int value _ =>
    match Number.int64? value with
    | some value => int value
    | none => uint (UInt64.ofNat value.toNat)
  | .float value _ => float value

mutual

/-- JSON data as a literal. -/
def ofJson : Json → Expr
  | .null => null
  | .bool value => bool value
  | .number value => ofNumber value
  | .string value => string value
  | .array items => array (ofItems items)
  | .object entries => object (ofEntries entries)

/-- The items of a JSON array as literals. -/
def ofItems : List Json → List Expr
  | [] => []
  | item :: rest => ofJson item :: ofItems rest

/-- The entries of a JSON object as literals. -/
def ofEntries : List (String × Json) → List (String × Expr)
  | [] => []
  | (key, value) :: rest => (key, ofJson value) :: ofEntries rest

end

/-- A JSON object as an object literal. -/
def ofObject (entries : JsonObject) : Expr :=
  object (ofEntries entries)

mutual

/-- The data of a literal. It fails at the first call. -/
def toJson : Expr → Except Error Json
  | null => .ok .null
  | bool value => .ok (.bool value)
  | int value => .ok (.ofInt64 value)
  | uint value => .ok (.ofUInt64 value)
  | float value => .ok (.ofFloat value)
  | string value => .ok (.string value)
  | array items => return .array (← toJsonItems items)
  | object entries => return .object (← toJsonEntries entries)
  | call function _ => .error (.invalidExpr .literal (.callTo function))

/-- The data of the items of an array, from the first on. -/
def toJsonItems : List Expr → Except Error (List Json)
  | [] => .ok []
  | item :: rest => do
    let value ← item.toJson
    let values ← toJsonItems rest
    return value :: values

/-- The data of the values of an object, in key order. -/
def toJsonEntries : List (String × Expr) → Except Error (List (String × Json))
  | [] => .ok []
  | (key, item) :: rest => do
    let value ← item.toJson
    let values ← toJsonEntries rest
    return (key, value) :: values

end

/-- The data of an object literal. -/
def toObject (expr : Expr) : Except Error JsonObject := do
  match ← expr.toJson with
  | .object entries => return entries
  | value => throw (.invalidExpr .dataObject (.json value))

mutual

/-- Reads the wire form. An object with other than one entry is neither an object literal nor
a call.
-/
def ofWire : Json → Except Error Expr
  | .null => .ok null
  | .bool value => .ok (bool value)
  | .number value => .ok (ofNumber value)
  | .string value => .ok (string value)
  | .array items => return array (← ofWireItems items)
  | .object [(key, value)] =>
    if key = objectKey then
      match value with
      | .object entries => return object (← ofWireEntries entries)
      | other => .error (.invalidExpr .objectLiteral (.json other))
    else return call key (← ofWire value)
  | .object entries => .error (.invalidExpr .wireObject (.keys entries.length))

/-- Reads the items of an array, from the first on. -/
def ofWireItems : List Json → Except Error (List Expr)
  | [] => .ok []
  | item :: rest => do
    let value ← ofWire item
    let values ← ofWireItems rest
    return value :: values

/-- Reads the values of an object literal, in key order. -/
def ofWireEntries : List (String × Json) → Except Error (List (String × Expr))
  | [] => .ok []
  | (key, item) :: rest => do
    let value ← ofWire item
    let values ← ofWireEntries rest
    return (key, value) :: values

end

/-- An expression is shown as its wire form on one line. -/
def text (expr : Expr) : String :=
  expr.toWire.compact

end Expr

/-- The object that a JSON text holds. The property is the one the text is given for. -/
def JsonObject.parse (property text : String) : Except Error JsonObject :=
  match Json.parse? text with
  | some (.object entries) => .ok entries
  | some value => .error (.invalidObject property (.notObject value))
  | none => .error (.invalidObject property .notJson)

end Catalog
