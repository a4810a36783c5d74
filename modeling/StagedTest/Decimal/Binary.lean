import StagedTest.Decimal

/-!
# Decimals as double precision numbers

Documents hold numbers in double precision: a decimal read from one stands for the double
nearest to it, and is written again with the fewest digits that lead back to that double. Both
directions are exact arithmetic on natural numbers. A positive double is `significand` ·
2 ^ `exponent`; the numbers that round to it form an interval, whose ends belong to it when the
significand is even.
-/
namespace StagedTest.Decimal

/-- The positive number `significand` · 2 ^ `exponent`. -/
structure Binary where
  /-- Below 2 ^ 53, and at least 2 ^ 52 unless the exponent is the least one. -/
  significand : Nat
  /-- The power of two, at least -1074. -/
  exponent : Int
deriving DecidableEq, Inhabited, Repr

/-- The least power of two of a double. -/
def leastExponent : Int := -1074

/-- The greatest power of two of a double with a 53 bit significand. -/
def greatestExponent : Int := 971

/-- A quotient rounded to the nearest whole number, and to the even one of two. -/
def roundedQuotient (numerator denominator : Nat) : Nat :=
  let floor := numerator / denominator
  let twice := 2 * (numerator % denominator)
  if denominator < twice ∨ (denominator = twice ∧ floor % 2 = 1) then floor + 1 else floor

/-- A power of a base as a fraction: the power itself, or one over it. -/
def powerFraction (base : Nat) (exponent : Int) : Nat × Nat :=
  if 0 ≤ exponent then (base.pow exponent.toNat, 1) else (1, base.pow (-exponent).toNat)

/-- The exponent of the greatest power of two that is at most a positive fraction. -/
def floorLog2 (numerator denominator : Nat) : Int :=
  let guess : Int := (numerator.log2 : Int) - denominator.log2
  let (up, down) := powerFraction 2 guess
  if denominator * up ≤ numerator * down then guess else guess - 1

/-- The double nearest to a positive fraction, or none when it is beyond the greatest. -/
def nearest? (numerator denominator : Nat) : Option Binary :=
  let exponent := max (floorLog2 numerator denominator - 52) leastExponent
  let (up, down) := powerFraction 2 exponent
  let significand := roundedQuotient (numerator * down) (denominator * up)
  let found : Binary :=
    if significand = Nat.pow 2 53 then ⟨Nat.pow 2 52, exponent + 1⟩ else ⟨significand, exponent⟩
  if greatestExponent < found.exponent then none else some found

/-- The double nearest to a decimal's magnitude; none of it when it is beyond the greatest. -/
def magnitude? (d : Decimal) : Option Binary :=
  let (up, down) := powerFraction 10 d.exponent
  nearest? (d.coefficient * up) down

/-- The interval of numbers that round to a double, in quarters of its last place: the lower
end, the number itself and the upper end. -/
def Binary.quarters (b : Binary) : Nat × Nat × Nat :=
  let lower := if b.significand = Nat.pow 2 52 ∧ leastExponent < b.exponent then 1 else 2
  (4 * b.significand - lower, 4 * b.significand, 4 * b.significand + 2)

/-- The decimal with the given power of ten that rounds to a double and is closest to it; of
two equally close ones the even. -/
def Binary.onGrid? (b : Binary) (exponent : Int) : Option Nat :=
  let (lower, middle, upper) := b.quarters
  let (up, down) := powerFraction 2 (b.exponent - 2)
  let (tenUp, tenDown) := powerFraction 10 exponent
  let scale := up * tenDown
  let unit := down * tenUp
  let inside (c : Nat) : Bool :=
    if b.significand % 2 = 0 then lower * scale ≤ c * unit && c * unit ≤ upper * scale
    else lower * scale < c * unit && c * unit < upper * scale
  let below := middle * scale / unit
  let above := below + 1
  match inside below, inside above with
  | false, false => none
  | true, false => some below
  | false, true => some above
  | true, true =>
    let gapBelow := middle * scale - below * unit
    let gapAbove := above * unit - middle * scale
    if gapBelow < gapAbove ∨ (gapBelow = gapAbove ∧ below % 2 = 0) then some below
    else some above

/-- The exponent of the greatest power of ten that is at most a double. -/
def Binary.floorLog10 (b : Binary) : Int :=
  let (up, down) := powerFraction 2 b.exponent
  let numerator := b.significand * up
  if down ≤ numerator then (Nat.toDigits 10 (numerator / down)).length - 1
  else -((Nat.toDigits 10 ((down - 1) / numerator)).length : Int)

/-- The fewest digits that lead back to a double, and of those the closest to it. -/
def Binary.shortest (b : Binary) : Nat × Int :=
  let leading := b.floorLog10
  let grids := (List.range 17).map fun (count : Nat) => leading - count
  let hits := grids.filterMap fun exponent => (b.onGrid? exponent).map (·, exponent)
  hits.headD (b.significand, b.exponent)

/-- The decimal with the fewest digits that stands for the same double; none when there is no
such double. -/
def rounded? (d : Decimal) : Option Decimal :=
  if d.coefficient = 0 then some ⟨d.negative, 0, 0⟩
  else
    match d.magnitude? with
    | none => none
    | some ⟨0, _⟩ => some ⟨d.negative, 0, 0⟩
    | some b =>
      let (coefficient, exponent) := b.shortest
      some (normal ⟨d.negative, coefficient, exponent⟩)

end StagedTest.Decimal
