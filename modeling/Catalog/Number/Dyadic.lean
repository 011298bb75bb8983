/-! The parts of a 64-bit float: a sign bit, eleven bits of exponent and fifty-two bits of fraction.
-/

namespace Catalog.Number

/-- The least mantissa of fifty-three bits, which is `2 ^ 52`. -/
abbrev fullMantissa : Nat := 4503599627370496

/-- The bit that stands for a minus. -/
abbrev signBit : Nat := 9223372036854775808

/-- A magnitude `mantissa * 2 ^ exponent`. -/
structure Dyadic where
  mantissa : Nat
  exponent : Int
  deriving DecidableEq, Repr

/-- Whether the sign bit is set, which also tells the two zeros apart. -/
def isNegative (x : Float) : Bool :=
  x.toBits >>> 63 = 1

/-- The magnitude of a finite float, read from its fraction and exponent fields. -/
def magnitude (x : Float) : Dyadic :=
  let fraction : Nat := x.toBits.toNat % fullMantissa
  let biased : Nat := x.toBits.toNat / fullMantissa % 2048
  if biased = 0 then ⟨fraction, -1074⟩ else ⟨fraction + fullMantissa, Int.ofNat biased - 1075⟩

end Catalog.Number
