import Catalog.Number.Nearest
import Catalog.Number.Word
import Catalog.Text.Digit

/-! What the text of a plain scalar stands for.
Null, Booleans, integers and floats have their own spellings, and everything else is a string.
Integers may be hexadecimal, octal or binary; digits after a leading zero are no number.
-/

namespace Catalog.Yaml

/-- A typed value. -/
inductive Value
  | null
  | bool (value : Bool)
  | integer (value : Int)
  | float (value : Float)
  | string (text : String)
  deriving Repr

namespace Value

/-- Whether a text spells null. An empty one does not. -/
def isNull (text : String) : Bool :=
  ["null", "Null", "NULL", "~"].contains text

/-- The Boolean that a text spells. -/
def bool? (text : String) : Option Bool :=
  if ["true", "True", "TRUE"].contains text then some true
  else if ["false", "False", "FALSE"].contains text then some false
  else none

/-- The number that digits of a base denote. There has to be at least one. -/
def digits? (base : Nat) (text : List Char) : Option Nat :=
  if text.isEmpty then none
  else text.foldlM (fun value c => do
    let digit ← Text.hexDigit? c
    if digit < base then some (value * base + digit) else none) 0

/-- Whether a text consists of digits and starts with a zero that is not all of it. -/
def hasLeadingZero (text : List Char) : Bool :=
  let digits := (Number.readSign text).2
  digits.length > 1 && digits.head? = some '0' && digits.all Char.isDigit

/-- The number that digits denote, in the base that their mark gives. -/
def size? (text : List Char) : Option Nat :=
  match text with
  | '0' :: 'x' :: digits => digits? 16 digits
  | '0' :: 'o' :: digits => digits? 8 digits
  | '0' :: 'b' :: digits => digits? 2 digits
  | digits => if hasLeadingZero digits then none else digits? 10 digits

/-- The natural number that a text spells. -/
def natural? (text : String) : Option Nat :=
  match text.toList with
  | '+' :: rest => size? rest
  | rest => size? rest

/-- The integer that a text spells, if it fits 128 bits. -/
def integer? (text : String) : Option Int :=
  let value? : Option Int :=
    match text.toList with
    | '-' :: rest => (size? rest).map fun size => -size
    | _ => (natural? text).map Int.ofNat
  value?.filter fun value => Number.FitsWidestWord value

/-- The float that a text spells, also one of those that are not finite. -/
def float? (text : String) : Option Float :=
  let unsigned := if text.toList.head? = some '+' then String.ofList text.toList.tail else text
  if [".inf", ".Inf", ".INF"].contains unsigned then some (1.0 / 0.0)
  else if ["-.inf", "-.Inf", "-.INF"].contains text then some (-1.0 / 0.0)
  else if [".nan", ".NaN", ".NAN"].contains text then some (0.0 / 0.0)
  else if text.toList.head? = some '+' ∧ (Number.readSign unsigned.toList).2 ≠ unsigned.toList
    then none
  else (Number.Numeral.ofText? unsigned).bind Number.Numeral.nearest?

/-- The value that a plain text stands for. -/
def ofText (text : String) : Value :=
  if text.isEmpty ∨ isNull text then null
  else match bool? text, integer? text with
  | some value, _ => bool value
  | none, some value => integer value
  | none, none =>
    match hasLeadingZero text.toList, float? text with
    | false, some value => float value
    | _, _ => string text

end Value

end Catalog.Yaml
