import Catalog.Number.Dyadic

/-! The float nearest to a decimal. Halfway between two floats the one with the even mantissa is
taken.
-/

namespace Catalog.Number

/-- The integer nearest to a quotient; a half goes to the even neighbour. -/
def roundQuotient (numerator denominator : Nat) : Nat :=
  let quotient := numerator / denominator
  let remainder := numerator % denominator
  if 2 * remainder > denominator ∨ 2 * remainder = denominator ∧ quotient % 2 = 1 then
    quotient + 1
  else quotient

/-- The mantissa of a quotient in units of `2 ^ exponent`, rounded. -/
def mantissa (numerator denominator : Nat) (exponent : Int) : Nat :=
  roundQuotient (numerator * Nat.pow 2 (-exponent).toNat)
    (denominator * Nat.pow 2 exponent.toNat)

/-- The exponent of the unit in which a positive quotient has 53 bits before the point, or the
least exponent there is.
-/
def unitExponent (numerator denominator : Nat) : Int :=
  let guess : Int := numerator.log2 - denominator.log2 - 52
  let short :=
    numerator * Nat.pow 2 (-guess).toNat
      < fullMantissa * denominator * Nat.pow 2 guess.toNat
  max (-1074) (if short then guess - 1 else guess)

/-- The float nearest to a quotient, as its bits; there is none when it is too large. -/
def nearestBits? (numerator denominator : Nat) : Option Nat :=
  if numerator = 0 then some 0
  else
    let exponent := unitExponent numerator denominator
    let mantissa := mantissa numerator denominator exponent
    let (mantissa, exponent) :=
      if mantissa = 2 * fullMantissa then (fullMantissa, exponent + 1) else (mantissa, exponent)
    if mantissa < fullMantissa then some mantissa
    else if exponent > 971 then none
    else some ((exponent + 1075).toNat * fullMantissa + (mantissa - fullMantissa))

/-- A decimal number as written: sign, digits before and after the point, and exponent. -/
structure Numeral where
  negative : Bool
  digits : List Nat
  /-- How many of the digits stand after the point. -/
  decimals : Nat
  exponent : Int
  deriving DecidableEq, Repr

/-- The float nearest to a numeral; there is none when it is too large. -/
def Numeral.nearest? (numeral : Numeral) : Option Float := do
  let value := numeral.digits.foldl (fun value digit => value * 10 + digit) 0
  let scale := numeral.exponent - numeral.decimals
  let size := (toString value).length + scale
  let bits ←
    if value = 0 ∨ size < -400 then some 0
    else if size > 400 then none
    else nearestBits? (value * Nat.pow 10 scale.toNat) (Nat.pow 10 (-scale).toNat)
  let sign := if numeral.negative then signBit else 0
  return Float.ofBits (UInt64.ofNat (sign + bits))

/-- The value of a decimal digit. -/
def decimalDigit (c : Char) : Nat :=
  c.toNat - '0'.toNat

/-- Reads an optional sign: whether it is a minus, and the text after it. -/
def readSign : List Char → Bool × List Char
  | '-' :: rest => (true, rest)
  | '+' :: rest => (false, rest)
  | text => (false, text)

/-- Reads the exponent of a numeral, which may be missing. -/
def readExponent? : List Char → Option Int
  | [] => some 0
  | mark :: rest =>
    let (negative, digits) := readSign rest
    if (mark = 'e' ∨ mark = 'E') ∧ !digits.isEmpty ∧ digits.all Char.isDigit then
      let size : Nat := digits.foldl (fun value c => value * 10 + decimalDigit c) 0
      some (if negative then -size else size)
    else none

/-- Reads a numeral. There has to be a digit before or after the point. -/
def Numeral.ofText? (text : String) : Option Numeral := do
  let (negative, rest) := readSign text.toList
  let whole := rest.takeWhile Char.isDigit
  let rest := rest.drop whole.length
  let fraction := if rest.head? = some '.' then rest.tail.takeWhile Char.isDigit else []
  let rest := if rest.head? = some '.' then rest.tail.drop fraction.length else rest
  if whole.isEmpty ∧ fraction.isEmpty then failure
  let digits := (whole ++ fraction).map decimalDigit
  return { negative, digits, decimals := fraction.length, exponent := ← readExponent? rest }

end Catalog.Number
