import Catalog.Number.Dyadic

/-! The shortest decimal that reads back as a given float.
A finite float is `m * 2 ^ q`; the reals that round to it form an interval around it, closed
exactly when `m` is even. The shortest decimal is the multiple of the largest power of ten
that lies in this interval, the nearest one when there are two.
-/

namespace Catalog.Number

/-- A magnitude `digits * 10 ^ exponent`. -/
structure Decimal where
  digits : Nat
  exponent : Int
  deriving DecidableEq, Repr

/-- The interval of reals that round to a magnitude, with its centre: all three over the same
denominator.
-/
structure RoundingInterval where
  low : Nat
  centre : Nat
  high : Nat
  denominator : Nat
  closed : Bool

/-- The interval reaches half a unit in the last place to both sides. Below a power of two the
units are half as large.
-/
def Dyadic.roundingInterval (x : Dyadic) : RoundingInterval :=
  let below := if x.mantissa = fullMantissa ∧ x.exponent > -1074 then 1 else 2
  let scale := Nat.pow 2 (x.exponent - 2).toNat
  ⟨(4 * x.mantissa - below) * scale, 4 * x.mantissa * scale, (4 * x.mantissa + 2) * scale,
    Nat.pow 2 (2 - x.exponent).toNat, x.mantissa % 2 = 0⟩

/-- Whether `digits * 10 ^ exponent` lies in the interval. -/
def RoundingInterval.holds (interval : RoundingInterval) (x : Decimal) : Bool :=
  let value := x.digits * Nat.pow 10 x.exponent.toNat * interval.denominator
  let low := interval.low * Nat.pow 10 (-x.exponent).toNat
  let high := interval.high * Nat.pow 10 (-x.exponent).toNat
  if interval.closed then low ≤ value ∧ value ≤ high else low < value ∧ value < high

/-- Of the two multiples of `10 ^ exponent` around the centre, the nearest that lies in the
interval. On a tie the even one.
-/
def RoundingInterval.nearest? (interval : RoundingInterval) (exponent : Int)
    : Option Decimal :=
  let unit := Nat.pow 10 exponent.toNat * interval.denominator
  let centre := interval.centre * Nat.pow 10 (-exponent).toNat
  let below : Decimal := ⟨centre / unit, exponent⟩
  let above : Decimal := ⟨centre / unit + 1, exponent⟩
  let remainder := centre % unit
  let belowHolds := below.digits ≠ 0 ∧ interval.holds below
  if belowHolds ∧ interval.holds above then
    if 2 * remainder < unit ∨ 2 * remainder = unit ∧ below.digits % 2 = 0 then some below
    else some above
  else if belowHolds then some below
  else if interval.holds above then some above
  else none

/-- Tries powers of ten downward until one has a multiple in the interval. -/
def RoundingInterval.coarsest (interval : RoundingInterval) : Nat → Int → Decimal
  | 0, exponent => ⟨interval.centre / interval.denominator, exponent⟩
  | steps + 1, exponent =>
    match interval.nearest? exponent with
    | some decimal => decimal
    | none => interval.coarsest steps (exponent - 1)

/-- The shortest decimal that reads back as the given positive magnitude. Every finite float
has one between `10 ^ 309` and `10 ^ -324`.
-/
def Dyadic.shortest (x : Dyadic) : Decimal :=
  x.roundingInterval.coarsest 640 309

end Catalog.Number
