import Catalog.Json.Basic

/-! The value of a JSON number literal.
Digits are taken into a 64-bit significand; integer digits that no longer fit scale the value
and fraction digits that no longer fit are dropped. A literal without fraction and exponent
whose digits all fit is an integer; any other value is rounded when the significand becomes a
float and once more when it is scaled by a power of ten.
-/

namespace Catalog.Json

/-- A number literal as written: sign, digits before and after the point, and exponent. -/
structure Literal where
  negative : Bool
  whole : List Nat
  fraction : Option (List Nat)
  exponent : Option Int
  deriving DecidableEq, Repr

/-- Takes leading digits into the significand while it stays below `2 ^ 64`, and returns the
digits that are left.
-/
def absorbDigits (significand : Nat) : List Nat → Nat × List Nat
  | [] => (significand, [])
  | digit :: rest =>
    if significand * 10 + digit < UInt64.size then absorbDigits (significand * 10 + digit) rest
    else (significand, digit :: rest)

/-- Multiplies by a power of ten, in steps of `10 ^ 308` downward; there is no value when the
product is too large for a float.
-/
def scaleByTen (value : Float) (exponent : Int) : Option Float :=
  if exponent.natAbs ≤ 308 then
    if 0 ≤ exponent then
      let product := value * Float.ofScientific 1 false exponent.natAbs
      if product.isFinite then some product else none
    else some (value / Float.ofScientific 1 false exponent.natAbs)
  else if value == 0 then some value
  else if 0 ≤ exponent then none
  else scaleByTen (value / Float.ofScientific 1 false 308) (exponent + 308)
termination_by exponent.natAbs
decreasing_by omega

/-- A finite float as a number; there is none for an infinity. -/
def Number.ofFloat? (value : Float) : Option Number :=
  if finite : value.isFinite = true then some (.float value finite) else none

/-- An integer as a number, if it fits 64 bits. -/
def Number.ofInt? (value : Int) : Option Number :=
  if fits : Catalog.Number.FitsWord value then some (.int value fits) else none

/-- The value of a literal; there is none when it is too large for a float. Negative zero and
negative integers below `-2 ^ 63` are floats.
-/
def Literal.value? (literal : Literal) : Option Number :=
  let sign (size : Float) : Float := if literal.negative then -size else size
  let (significand, beyond) := absorbDigits 0 literal.whole
  match literal.fraction, literal.exponent, beyond with
  | none, none, [] =>
    if literal.negative then
      if significand = 0 then Number.ofFloat? (sign 0)
      else (Number.ofInt? (-significand)).or (Number.ofFloat? (sign (Float.ofNat significand)))
    else Number.ofInt? significand
  | fraction, exponent, _ =>
    let digits := fraction.getD []
    let (significand, dropped) := absorbDigits significand digits
    let shift : Int := beyond.length - (digits.length - dropped.length) + exponent.getD 0
    (scaleByTen (Float.ofNat significand) shift).bind fun size => Number.ofFloat? (sign size)

end Catalog.Json
