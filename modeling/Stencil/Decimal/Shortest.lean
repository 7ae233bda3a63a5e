import Stencil.Decimal.Binary

/-!
# The shortest decimal of a double

Among the decimals that read back as a given double, those with the fewest digits are considered,
and of these the nearest to it; of two that are equally near, the larger.

The numbers that round to a double form an interval around it, whose ends belong to it when the
mantissa is even. Everything is compared in quarters of the last place, so that the ends are whole.
-/

namespace Stencil.Decimal

/-- The number `digits · 10 ^ exponent`. -/
structure Figure where
  digits : Nat
  exponent : Int
deriving Repr, DecidableEq

/-- A positive magnitude with its rounding interval, in quarters of its last place. -/
structure Interval where
  middle : Nat
  below : Nat
  above : Nat
  closed : Bool
  /-- The binary exponent of a quarter. -/
  exponent : Int

/-- The distance to the next lower double is half as large at a power of two. -/
def Dyadic.interval (magnitude : Dyadic) : Interval where
  middle := 4 * magnitude.mantissa
  below := if magnitude.mantissa = 0x10000000000000 ∧ -1074 < magnitude.exponent then 1 else 2
  above := 2
  closed := magnitude.mantissa % 2 == 0
  exponent := magnitude.exponent - 2

/-- How much one unit of `10 ^ exponent` weighs, on a scale on which a quarter weighs
`interval.quarter exponent`. -/
def Interval.unit (interval : Interval) (exponent : Int) : Nat :=
  Nat.pow 10 exponent.toNat * Nat.pow 2 (-interval.exponent).toNat

def Interval.quarter (interval : Interval) (exponent : Int) : Nat :=
  Nat.pow 2 interval.exponent.toNat * Nat.pow 10 (-exponent).toNat

/-- Whether a figure reads back as the middle of the interval. -/
def Interval.holds (interval : Interval) (figure : Figure) : Bool :=
  let weight := figure.digits * interval.unit figure.exponent
  let quarter := interval.quarter figure.exponent
  let low := (interval.middle - interval.below) * quarter
  let high := (interval.middle + interval.above) * quarter
  if interval.closed then low ≤ weight && weight ≤ high else low < weight && weight < high

/-- The multiple of `10 ^ exponent` at or below the middle. -/
def Interval.floorAt (interval : Interval) (exponent : Int) : Nat :=
  interval.middle * interval.quarter exponent / interval.unit exponent

/-- The better of the two neighbours of the middle on the grid of `10 ^ exponent`. -/
def Interval.choose (interval : Interval) (exponent : Int) : Option Figure :=
  let lower := interval.floorAt exponent
  let rest := interval.middle * interval.quarter exponent - lower * interval.unit exponent
  let down : Figure := ⟨lower, exponent⟩
  let up : Figure := ⟨lower + 1, exponent⟩
  match interval.holds down, interval.holds up with
  | true, true => some (if 2 * rest < interval.unit exponent then down else up)
  | true, false => some down
  | false, true => some up
  | false, false => none

/-- Tries ever finer grids, each a tenth of the one before. -/
def Interval.search (interval : Interval) : Nat → Int → Figure
  | 0, exponent => ⟨interval.floorAt exponent, exponent⟩
  | tries + 1, exponent =>
      match interval.choose exponent with
      | some figure => figure
      | none => interval.search tries (exponent - 1)

/-- The count of digits before the point, at most zero for a number below one. -/
def Dyadic.leading (magnitude : Dyadic) : Int :=
  let scaled : Dyadic := ⟨magnitude.mantissa * Nat.pow 10 400, magnitude.exponent⟩
  (Nat.toDigits 10 scaled.floor).length - 400

/-- Moves trailing zeros of the digits into the exponent. -/
def Figure.strip : Nat → Figure → Figure
  | 0, figure => figure
  | tries + 1, figure =>
      if figure.digits ≠ 0 ∧ figure.digits % 10 = 0 then
        strip tries ⟨figure.digits / 10, figure.exponent + 1⟩
      else figure

/-- The shortest figure of a magnitude; seventeen digits always suffice. -/
def Dyadic.shortest (magnitude : Dyadic) : Figure :=
  if magnitude.mantissa = 0 then ⟨0, 0⟩
  else Figure.strip 20 (magnitude.interval.search 17 (magnitude.leading - 1))

end Stencil.Decimal
