import Catalog.Json.Printer

/-! Why an annotated item is refused. -/

namespace Catalog.Annotated

/-- The attributes that annotations consist of. -/
inductive AttributeKind
  | collection
  | index
  | field
  deriving DecidableEq, Repr

/-- What is wrong with an annotated item. -/
inductive Fault
  /-- An attribute is not of the form that attributes have. -/
  | unexpected
  | unknownKey (kind : AttributeKind)
  | notJson
  | notObject (value : Json)
  | unknownRule (name : String)
  | historyConflict
  | repeatedCollection
  | notStruct
  | unnamedFields
  /-- A marker is also the name of a field. -/
  | ambiguousElement (name : String)
  | unknownField (member : String)
  | orderInTerms
  | danglingOrder
  deriving DecidableEq

/-- How keys have to be given to an attribute. -/
def AttributeKind.usage : AttributeKind → String
  | collection =>
    "Invalid #[collection(...)] key: expected one of "
      ++ "name, ttl_days, history_days, no_history, data, permissions, extends, rename_all"
  | index =>
    "Invalid #[index(...)] key: expected one of "
      ++ "name, terms, values, unique, serialized, data, permissions"
  | field =>
    "Invalid #[field(...)] key: expected #[field(name = \"...\")] or #[field(skip)]"

/-- The message of a fault, if the fault lies in what is said and not in how it is written. -/
def Fault.message? : Fault → Option String
  | unexpected => none
  | unknownKey kind => some kind.usage
  | notJson => some "Invalid JSON"
  | notObject value => some ("Expected a JSON object, got " ++ value.compact)
  | unknownRule name => some ("Unknown rename rule '" ++ name ++ "'")
  | historyConflict =>
    some "unexpected end of input, history_days and no_history are mutually exclusive"
  | repeatedCollection => some "Only one #[collection(...)] attribute is allowed"
  | notStruct => some "#[derive(Collection)] can only be used on structs"
  | unnamedFields => some "#[derive(Collection)] can only be used on structs with named fields"
  | ambiguousElement name =>
    some ("Ambiguous index element '" ++ name ++ "': a field has the same name as the marker")
  | unknownField member =>
    some ("Unknown field '" ++ member ++ "': not a declared field of this type")
  | orderInTerms => some "Ordering modifiers are only allowed in values"
  | danglingOrder => some "Ordering modifier does not follow a value"

end Catalog.Annotated
