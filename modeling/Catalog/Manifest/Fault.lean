import Catalog.Number.Layout
import Catalog.Text.Quoted

/-! Why a text cannot be loaded as a manifest: it is not well-formed, or at some place it holds
something other than a manifest has there.
-/

namespace Catalog.Manifest

/-- The formats that manifests are written in. -/
inductive Format
  | json
  | yaml
  deriving DecidableEq, Repr

/-- A type that a scalar can be labelled with. -/
inductive Label
  | null
  | boolean
  | integer
  | float
  deriving DecidableEq, Repr

/-- What stands at a place. -/
inductive Shape
  | null
  | bool (value : Bool)
  | integer (value : Int)
  /-- An integer beyond 64 bits. -/
  | wide (value : Int)
  | float (value : Float)
  | string (value : String)
  | sequence
  | map
  /-- A scalar whose label does not suit its text. -/
  | mislabelled (text : String) (label : Label)
  deriving Repr

/-- What is looked for at a place. -/
inductive Wanted
  | string
  | boolean
  | days
  | sequence
  | record (name : String)
  | key
  | data
  | labelled (label : Label)
  deriving DecidableEq, Repr

/-- What is wrong at a place of a well-formed text. -/
inductive ShapeFault
  | mismatch (found : Shape) (wanted : Wanted)
  | outOfRange (value : Int)
  | tooFewItems (count : Nat) (record : String) (members : Nat)
  | unknownKey (key : String) (known : List String)
  | missingKey (key : String)
  | repeatedKey (key : String)
  /-- None of the ways to write a choice fits. -/
  | noVariant (choice : String)
  /-- A choice is told apart by its content and cannot be labelled. -/
  | labelledChoice
  deriving Repr

/-- A step from a value into one of its parts. -/
inductive Segment
  | key (name : String)
  | item (position : Nat)
  | unnamed
  deriving DecidableEq, Repr

/-- Why a text cannot be loaded. -/
inductive LoadError
  | malformed
  | misshapen (path : List Segment) (fault : ShapeFault)
  deriving Repr

/-- The words for a label. -/
def Label.text : Label → String
  | null => "null"
  | boolean => "a boolean"
  | integer => "an integer"
  | float => "a float"

/-- A float in the words of a format: with JSON's own digits, or else without an exponent. -/
def Format.floatText (format : Format) (value : Float) : String :=
  if value.isNaN then "NaN"
  else if value.isInf then (if value < 0 then "-inf" else "inf")
  else match format with
  | json => Number.Layout.json.renderFloat value
  | yaml => Number.Layout.positional.renderFloat value

/-- The words for what stands at a place. -/
def Shape.text (format : Format) : Shape → String
  | null =>
    match format with
    | .json => "null"
    | .yaml => "unit value"
  | bool value => "boolean `" ++ (if value then "true" else "false") ++ "`"
  | integer value => "integer `" ++ toString value ++ "`"
  | wide value =>
    "integer `" ++ toString value ++ "` as " ++ (if value < 0 then "i128" else "u128")
  | float value => "floating point `" ++ format.floatText value ++ "`"
  | string value | mislabelled value _ => "string " ++ Text.quote value
  | sequence => "sequence"
  | map => "map"

/-- The words for what is looked for. -/
def Wanted.text : Wanted → String
  | string => "a string"
  | boolean => "a boolean"
  | days => "u32"
  | sequence => "a sequence"
  | record name => "struct " ++ name
  | key => "field identifier"
  | data => "any value"
  | labelled label => label.text

/-- A key in the words of a message. -/
def quoteKey (key : String) : String :=
  "`" ++ key ++ "`"

/-- The keys that are known at a place, in words. -/
def knownKeysText : List String → String
  | [] => "there are no fields"
  | [key] => "expected " ++ quoteKey key
  | [first, second] => "expected " ++ quoteKey first ++ " or " ++ quoteKey second
  | keys => "expected one of " ++ ", ".intercalate (keys.map quoteKey)

/-- The message of a fault. A scalar is taken by its label where its text does not suit it. -/
def ShapeFault.message (format : Format) : ShapeFault → String
  | mismatch (.mislabelled text label) _ =>
    "invalid value: " ++ (Shape.string text).text format ++ ", expected " ++ label.text
  | mismatch found wanted =>
    "invalid type: " ++ found.text format ++ ", expected " ++ wanted.text
  | outOfRange value =>
    "invalid value: " ++ (Shape.integer value).text format ++ ", expected "
      ++ Wanted.days.text
  | tooFewItems count record members =>
    "invalid length " ++ toString count ++ ", expected struct " ++ record ++ " with "
      ++ toString members ++ (if members = 1 then " element" else " elements")
  | unknownKey key known => "unknown field " ++ quoteKey key ++ ", " ++ knownKeysText known
  | missingKey key => "missing field " ++ quoteKey key
  | repeatedKey key => "duplicate field " ++ quoteKey key
  | noVariant choice => "data did not match any variant of untagged enum " ++ choice
  | labelledChoice => "untagged and internally tagged enums do not support enum input"

/-- The segments of a path; positions follow without a dot. -/
def pathSegments (separator : String) : List Segment → String
  | [] => ""
  | .item position :: rest => "[" ++ toString position ++ "]" ++ pathSegments "." rest
  | .key name :: rest => separator ++ name ++ pathSegments "." rest
  | .unnamed :: rest => separator ++ "?" ++ pathSegments "." rest

/-- The text of a path; a dot stands for the whole manifest. -/
def pathText (path : List Segment) : String :=
  if path.isEmpty then "." else pathSegments "" path

/-- Moves an error into a part of the value that was read. -/
def LoadError.within (segment : Segment) : LoadError → LoadError
  | malformed => malformed
  | misshapen path fault => misshapen (segment :: path) fault

end Catalog.Manifest
