import Catalog.Expr.Wire
import Catalog.Json.Printer
import Catalog.Operation.Target

/-! Everything that can go wrong between a declaration and the database, as causes.
The wording stands in `message`; an error inside another one is its cause, and `chain` lists
the messages from the outermost error inward.
-/

namespace Catalog

/-- What a name is given to. -/
inductive NameKind
  | collection
  | index
  deriving DecidableEq, Repr

/-- Why a name is refused. -/
inductive NameFault
  | empty
  | reserved
  deriving DecidableEq, Repr

/-- Why a field cannot be added to a field map. -/
inductive FieldFault
  | emptyMember
  | emptyAlias (member : String)
  | repeatedMember (member : String)
  /-- Two members are stored under one name. -/
  | sharedName (first second stored : String)
  deriving DecidableEq, Repr

/-- Why a text is not taken as a JSON object. -/
inductive ObjectFault
  | notJson
  | notObject (value : Json)
  deriving DecidableEq

/-- What is looked for in an expression or in its wire form. -/
inductive Expectation
  | wireObject
  | objectLiteral
  | literal
  | dataObject
  | operation
  | callOnObject (function : String)
  | collectionReference
  | indexField
  | fieldPath
  | entryObject
  | property (key : String)
  | stringIn (key : String)
  | arrayIn (key : String)
  | daysIn (key : String)
  | boolIn (key : String)
  deriving DecidableEq, Repr

/-- What stands there instead. -/
inductive Finding
  | nothing
  | kind (kind : Expr.Kind)
  | callTo (function : String)
  | keys (count : Nat)
  | json (value : Json)
  | expr (value : Expr)
  deriving DecidableEq

/-- The part of a declaration an error lies in. -/
inductive Place
  | declaration (typeName : String)
  | index (position : Nat)
  deriving DecidableEq, Repr

/-- An error of a declaration, of a compilation or of the database. -/
inductive Error
  | invalidName (kind : NameKind) (name : String) (fault : NameFault)
  | unresolvableField (typeName member : String)
  | danglingOrder (position : Nat)
  | invalidObject (property : String) (fault : ObjectFault)
  | invalidExpr (expected : Expectation) (found : Finding)
  /-- The database refuses the operation for a type's collection or index. -/
  | rejected (typeName : String) (target : Target) (cause : Error)
  | alreadyExists (target : Target)
  | notFound (target : Target)
  | invalidField (fault : FieldFault)
  | emptyTypeName
  | duplicateType (typeName : String)
  | unknownType (typeName : String)
  | historyConflict
  | orderOutsideValues (marker : String)
  | unknownMarker (marker : String)
  | within (place : Place) (cause : Error)
  /-- A failure that only its own text describes. -/
  | external (text : String)
  deriving DecidableEq

/-- The word for what a name is given to. -/
def NameKind.word : NameKind → String
  | collection => "collection"
  | index => "index"

/-- Why the name is refused, in words. -/
def NameFault.text : NameFault → String
  | empty => "name is empty"
  | reserved => "name is reserved"

/-- The message of a refused field. -/
def FieldFault.message : FieldFault → String
  | emptyMember => "Invalid field: member name is empty"
  | emptyAlias member => "Invalid field '" ++ member ++ "': alias is empty"
  | repeatedMember member => "Field '" ++ member ++ "' is declared more than once"
  | sharedName first second stored =>
    "Fields '" ++ first ++ "' and '" ++ second ++ "' are both stored as '" ++ stored ++ "'"

/-- Why the text is not taken, in words. -/
def ObjectFault.text : ObjectFault → String
  | notJson => "invalid JSON"
  | notObject value => "got " ++ value.compact

/-- What is looked for, in words. -/
def Expectation.text : Expectation → String
  | wireObject => "an object literal or a function call"
  | objectLiteral => "an object literal"
  | literal => "a literal"
  | dataObject => "an object"
  | operation => "a schema operation"
  | callOnObject function => "a '" ++ function ++ "' call with an object"
  | collectionReference => "a collection reference in 'source'"
  | indexField => "an index field"
  | fieldPath => "a [\"data\", <name>] field path"
  | entryObject => "an index field object"
  | property key => "a '" ++ key ++ "' property"
  | stringIn key => "a string in '" ++ key ++ "'"
  | arrayIn key => "an array in '" ++ key ++ "'"
  | daysIn key => "a day count in '" ++ key ++ "'"
  | boolIn key => "a bool in '" ++ key ++ "'"

/-- What stands there, in words; an expression is shown in its wire form. -/
def Finding.text : Finding → String
  | nothing => "nothing"
  | kind found => found.word
  | callTo function => "call to '" ++ function ++ "'"
  | keys count => "object with " ++ toString count ++ " keys"
  | json value => value.compact
  | expr value => value.toWire.compact

/-- The message that names a place. -/
def Place.message : Place → String
  | declaration typeName => "Invalid declaration of type '" ++ typeName ++ "'"
  | index position => "Invalid index at position " ++ toString position

namespace Error

/-- The message of an error; a rejection repeats the message of its cause. -/
def message : Error → String
  | invalidName kind name fault =>
    "Invalid " ++ kind.word ++ " name '" ++ name ++ "': " ++ fault.text
  | unresolvableField typeName member =>
    "Field '" ++ member ++ "' is not declared on type '" ++ typeName ++ "'"
  | danglingOrder position =>
    "Ordering modifier at position " ++ toString position ++ " does not follow a value"
  | invalidObject property fault =>
    "Invalid '" ++ property ++ "': expected a JSON object (" ++ fault.text ++ ")"
  | invalidExpr expected found =>
    "Invalid expression: expected " ++ expected.text ++ ", got " ++ found.text
  | rejected typeName target cause =>
    "Could not create " ++ target.text ++ " for type '" ++ typeName ++ "': " ++ cause.message
  | alreadyExists target => "Instance already exists: " ++ target.text
  | notFound target => "Instance not found: " ++ target.text
  | invalidField fault => fault.message
  | emptyTypeName => "Invalid type declaration: type name is empty"
  | duplicateType typeName => "Type already registered: '" ++ typeName ++ "'"
  | unknownType typeName => "Type not found: '" ++ typeName ++ "'"
  | historyConflict => "history_days and no_history are mutually exclusive"
  | orderOutsideValues marker =>
    "Ordering marker '" ++ marker ++ "' is only allowed in values"
  | unknownMarker marker => "Unknown marker '" ++ marker ++ "'"
  | within place _ => place.message
  | external text => text

/-- The messages of an error and of its causes, from the outermost inward. -/
def chain : Error → List String
  | rejected typeName target cause => message (rejected typeName target cause) :: cause.chain
  | within place cause => place.message :: cause.chain
  | error => [error.message]

end Error

/-- The state that a step leaves, unless the step fails. -/
def stateAfter {State : Type} (step : Except Error Unit × State) : Except Error State :=
  match step with
  | (.ok (), next) => .ok next
  | (.error error, _) => .error error

end Catalog
