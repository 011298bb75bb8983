import Catalog.Expr.Basic
import Catalog.Json.Basic

/-! The wire form of expressions.
In JSON an object literal is wrapped as the single entry `object`, and a function call is an
object whose single entry is named for the function. Numbers that JSON cannot hold are null.
-/

namespace Catalog

/-- A signed 64-bit integer as a JSON number. -/
def Json.ofInt64 (value : Int64) : Json :=
  number (.int value.toInt ⟨Int64.le_toInt value, by have := Int64.toInt_lt value; omega⟩)

/-- An unsigned 64-bit integer as a JSON number. -/
def Json.ofUInt64 (value : UInt64) : Json :=
  number (.int value.toNat (by have := value.toNat_lt; omega))

/-- A float as a JSON number, or null if it is not finite. -/
def Json.ofFloat (value : Float) : Json :=
  if finite : value.isFinite = true then number (.float value finite) else null

namespace Expr

/-- The key that marks an object literal. -/
def objectKey : String := "object"

mutual

/-- The wire form of an expression. -/
def toWire : Expr → Json
  | null => .null
  | bool value => .bool value
  | int value => .ofInt64 value
  | uint value => .ofUInt64 value
  | float value => .ofFloat value
  | string value => .string value
  | array items => .array (toWireItems items)
  | object entries => .object [(objectKey, .object (toWireEntries entries))]
  | call function argument => .object [(function, argument.toWire)]

/-- The wire forms of the items of an array. -/
def toWireItems : List Expr → List Json
  | [] => []
  | item :: rest => item.toWire :: toWireItems rest

/-- The wire forms of the values of an object. -/
def toWireEntries : List (String × Expr) → List (String × Json)
  | [] => []
  | (key, value) :: rest => (key, value.toWire) :: toWireEntries rest

end

end Expr

end Catalog
