/-!
# Decimal numbers

A decimal is a sign, a coefficient and a power of ten. `Decimal.text` writes one with a point
or an exponent always present, so that it is never taken for an integer: positionally from
`0.00001` up to sixteen digits before the point, and otherwise as a leading digit with a signed
exponent of at least two digits.
-/
namespace StagedTest

/-- The number ± `coefficient` · 10 ^ `exponent`. -/
structure Decimal where
  /-- Whether the number is written with a minus sign; zero may be. -/
  negative : Bool
  /-- The digits as a number. -/
  coefficient : Nat
  /-- The power of ten that the digits are multiplied by. -/
  exponent : Int
deriving DecidableEq, Inhabited, Repr

namespace Decimal

/-- Moves the trailing zeros of a coefficient into the exponent. -/
def stripZeros (coefficient : Nat) (exponent : Int) : Nat × Int :=
  if h : coefficient = 0 then (0, 0)
  else if coefficient % 10 = 0 then stripZeros (coefficient / 10) (exponent + 1)
  else (coefficient, exponent)
termination_by coefficient

/-- The same number with a coefficient that does not end in zero. -/
def normal (d : Decimal) : Decimal :=
  let (coefficient, exponent) := stripZeros d.coefficient d.exponent
  ⟨d.negative, coefficient, exponent⟩

/-- A whole number of thousandths. -/
def ofThousandths (count : Int) : Decimal :=
  normal ⟨count < 0, count.natAbs, -3⟩

/-- The digits of a number. -/
def digits (n : Nat) : List Char := Nat.toDigits 10 n

/-- The exponent of the leading digit when positional notation is still used, at least. -/
def leastPositional : Int := -5

/-- The exponent of the leading digit from which positional notation is no longer used. -/
def positionalEnd : Int := 16

/-- A signed exponent with at least two digits. -/
def exponentText (exponent : Int) : List Char :=
  let magnitude := digits exponent.natAbs
  'e' :: (if exponent < 0 then '-' else '+') ::
    (if magnitude.length < 2 then '0' :: magnitude else magnitude)

/-- The digits of a number with its point or exponent, without a sign. -/
def magnitudeText (coefficient : Nat) (exponent : Int) : List Char :=
  let ds := digits coefficient
  let leading : Int := ds.length - 1 + exponent
  if leastPositional ≤ leading ∧ leading < positionalEnd then
    if 0 ≤ exponent then ds ++ List.replicate exponent.toNat '0' ++ ['.', '0']
    else if 0 ≤ leading then
      let whole := (leading + 1).toNat
      ds.take whole ++ '.' :: ds.drop whole
    else '0' :: '.' :: List.replicate (-leading - 1).toNat '0' ++ ds
  else
    match ds with
    | [] => []
    | [d] => d :: exponentText leading
    | d :: rest => d :: '.' :: rest ++ exponentText leading

/-- The text of a decimal in normal form, always with a point or an exponent. -/
def text (d : Decimal) : String :=
  let d := d.normal
  let magnitude := magnitudeText d.coefficient d.exponent
  String.ofList (if d.negative then '-' :: magnitude else magnitude)

end Decimal

end StagedTest
