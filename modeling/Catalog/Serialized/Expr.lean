import Catalog.Expr.Wire
import Catalog.Serialized.Basic

/-! The serialized form of expressions, which tells the sorts of numbers apart and keeps calls
apart from objects.
-/

namespace Catalog.Expr

open Json (Reading)
open Serialized

mutual

/-- An expression as JSON. -/
def toJsonForm : Expr → Json
  | null => .string "Null"
  | bool value => .object [("Bool", .bool value)]
  | int value => .object [("Int", .ofInt64 value)]
  | uint value => .object [("UInt", .ofUInt64 value)]
  | float value => .object [("Float", .ofFloat value)]
  | string value => .object [("String", .string value)]
  | array items => .object [("Array", .array (itemForms items))]
  | object entries => .object [("Object", .object (entryForms entries))]
  | call function argument =>
    .object [("Call", .object [("arg", argument.toJsonForm), ("function", .string function)])]

/-- The items of an array as JSON. -/
def itemForms : List Expr → List Json
  | [] => []
  | item :: rest => item.toJsonForm :: itemForms rest

/-- The values of an object as JSON. -/
def entryForms : List (String × Expr) → List (String × Json)
  | [] => []
  | (key, value) :: rest => (key, value.toJsonForm) :: entryForms rest

end

/-- Reads a signed 64-bit integer. -/
def decodeInt : Decoder Int64 := fun reading => do
  match Number.int64? (← integer reading) with
  | some value => return value
  | none => throw .unreadable

/-- Reads an unsigned 64-bit integer. -/
def decodeUInt : Decoder UInt64 := fun reading => do
  match Number.uint64? (← integer reading) with
  | some value => return value
  | none => throw .unreadable

/-- Reads a float, which may be written as an integer. -/
def decodeFloat : Decoder Float
  | .number (some (.int value _)) => .ok (Float.ofInt value)
  | .number (some (.float value _)) => .ok value
  | _ => .error .unreadable

mutual

/-- Reads an expression. -/
def decode (reading : Reading) : Except DecodeError Expr :=
  match reading with
  | .string (some "Null") => .ok null
  | .object [(some variant, value)] =>
    match variant, value with
    | "Null", .null => .ok null
    | "Bool", value => bool <$> flag value
    | "Int", value => int <$> decodeInt value
    | "UInt", value => uint <$> decodeUInt value
    | "Float", value => float <$> decodeFloat value
    | "String", value => string <$> Serialized.text value
    | "Array", .array items => array <$> decodeItems items
    | "Object", .object entries => object <$> Entries.ofList <$> decodeEntries entries
    | "Call", .object parts => decodeCall none none parts
    | _, _ => .error .unreadable
  | _ => .error .unreadable

/-- Reads the items of an array. -/
def decodeItems (items : List Reading) : Except DecodeError (List Expr) :=
  match items with
  | [] => .ok []
  | item :: rest => do
    let value ← decode item
    let values ← decodeItems rest
    return value :: values

/-- Reads the entries of an object. -/
def decodeEntries (entries : List (Option String × Reading))
    : Except DecodeError (List (String × Expr)) :=
  match entries with
  | [] => .ok []
  | (some key, item) :: rest => do
    let value ← decode item
    let values ← decodeEntries rest
    return (key, value) :: values
  | (none, _) :: _ => .error .unreadable

/-- Reads the parts of a call, which are both required and each given once. -/
def decodeCall (function : Option String) (argument : Option Expr)
    (parts : List (Option String × Reading)) : Except DecodeError Expr :=
  match parts with
  | [] =>
    match function, argument with
    | some function, some argument => .ok (call function argument)
    | _, _ => .error .unreadable
  | (some "function", value) :: rest =>
    if function.isSome then .error .unreadable
    else do decodeCall (some (← Serialized.text value)) argument rest
  | (some "arg", value) :: rest =>
    if argument.isSome then .error .unreadable
    else do decodeCall function (some (← decode value)) rest
  | (some _, value) :: rest =>
    if value.isComplete then decodeCall function argument rest else .error .unreadable
  | (none, _) :: _ => .error .unreadable

end

end Catalog.Expr
