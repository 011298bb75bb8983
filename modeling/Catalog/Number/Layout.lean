import Catalog.Number.Shortest

/-! The text of a float: its shortest digits, laid out positionally or with an exponent. -/

namespace Catalog.Number

/-- How digits are laid out as text. The leading digit's exponent decides between positional
and exponent notation.
-/
structure Layout where
  /-- The least exponent that is still written positionally. -/
  lowest : Int
  /-- The first exponent that is no longer written positionally. -/
  limit : Int
  /-- What follows the digits of an integral value in positional notation. -/
  integralMark : String
  /-- The sign of an exponent that is not negative. -/
  positiveExponentSign : String

/-- JSON text keeps values from `0.00001` up to below `10 ^ 16` positional, marks an integral
float by `.0`, and signs every exponent.
-/
def Layout.json : Layout := ⟨-5, 16, ".0", "+"⟩

/-- No exponent at all: every finite float lies within these bounds. -/
def Layout.positional : Layout := ⟨-400, 400, ".0", "+"⟩

/-- The layout of a positive decimal. -/
def Layout.render (layout : Layout) (x : Decimal) : String :=
  let digits := toString x.digits
  let count := digits.length
  let leading := x.exponent + count - 1
  if layout.lowest ≤ leading ∧ leading < layout.limit then
    if 0 ≤ x.exponent then
      digits ++ String.ofList (List.replicate x.exponent.toNat '0') ++ layout.integralMark
    else if 0 ≤ leading then
      let whole := leading.toNat + 1
      String.ofList (digits.toList.take whole) ++ "."
        ++ String.ofList (digits.toList.drop whole)
    else
      "0." ++ String.ofList (List.replicate (-leading - 1).toNat '0') ++ digits
  else
    let fraction := digits.toList.drop 1
    String.ofList (digits.toList.take 1)
      ++ (if fraction.isEmpty then "" else "." ++ String.ofList fraction)
      ++ "e" ++ (if leading < 0 then "-" else layout.positiveExponentSign)
      ++ toString leading.natAbs

/-- The text of a finite float. A negative zero keeps its sign. -/
def Layout.renderFloat (layout : Layout) (x : Float) : String :=
  let size := magnitude x
  (if isNegative x then "-" else "")
    ++ (if size.mantissa = 0 then "0" ++ layout.integralMark else layout.render size.shortest)

end Catalog.Number
