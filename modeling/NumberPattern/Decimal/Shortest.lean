import NumberPattern.Decimal.Fixed

/-! The shortest text of a double. The reals that round to the double form an interval; the text is
a decimal of that interval with the fewest digits, and of those the nearest to the double, a tie
going up. It is written without an exponent. -/

namespace NumberPattern.Decimal
open Double (parts)

/-- A positive double and the interval of reals that round to it, over one denominator. The ends
belong to the interval when `closed` holds. -/
structure Interval where
  value : Nat
  low : Nat
  high : Nat
  denominator : Nat
  closed : Bool
deriving Repr

/-- The neighbours lie one mantissa step away, except that the step below a mantissa with only its
top bit set is half as wide. An even mantissa wins the ties at both ends. -/
def Interval.around (mantissa : Nat) (exponent : Int) : Interval :=
  let scale := Nat.pow 2 (exponent - 2).toNat
  { value := 4 * mantissa * scale
    low := (4 * mantissa - if mantissa = Nat.pow 2 52 then 1 else 2) * scale
    high := (4 * mantissa + 2) * scale
    denominator := Nat.pow 2 (2 - exponent).toNat
    closed := mantissa % 2 = 0 }

/-- The interval measured in units of `10 ^ place`. -/
def Interval.inUnits (interval : Interval) (place : Int) : Interval :=
  let up := Nat.pow 10 (-place).toNat
  { interval with
    value := interval.value * up
    low := interval.low * up
    high := interval.high * up
    denominator := interval.denominator * Nat.pow 10 place.toNat }

def Interval.contains (interval : Interval) (units : Nat) : Bool :=
  let point := units * interval.denominator
  if interval.closed then decide (interval.low ≤ point ∧ point ≤ interval.high)
  else decide (interval.low < point ∧ point < interval.high)

/-- The whole number of the interval nearest to its value, when a neighbour of the value lies in
it. -/
def Interval.nearestWhole? (interval : Interval) : Option Nat :=
  let below := interval.value / interval.denominator
  let above := below + 1
  let upper := interval.denominator ≤ 2 * (interval.value % interval.denominator)
  match interval.contains below, interval.contains above with
  | true, true => some (if upper then above else below)
  | true, false => some below
  | false, true => some above
  | false, false => none

/-- A place of which one unit is above the value, or equal to it. -/
def Interval.topPlace (interval : Interval) : Int :=
  if interval.denominator ≤ interval.value then
    (digits (interval.value / interval.denominator)).length
  else 1 - (digits (interval.denominator / interval.value)).length

/-- The units and the place of the first grid, from `place` down, that has a point in the
interval. -/
def Interval.firstPoint (interval : Interval) : (room : Nat) → (place : Int) → Nat × Int
  | 0, place =>
      let scaled := interval.inUnits place
      (scaled.value / scaled.denominator, place)
  | room + 1, place =>
      match (interval.inUnits place).nearestWhole? with
      | some units => (units, place)
      | none => interval.firstPoint room (place - 1)

/-- Seventeen digits always suffice; the first grid lies above them. -/
def shortestPoint (mantissa : Nat) (exponent : Int) : Nat × Int :=
  let interval := Interval.around mantissa exponent
  interval.firstPoint 18 interval.topPlace

/-- `units * 10 ^ place` without an exponent and without zeros at the end of the fraction. -/
def positional (units : Nat) (place : Int) : List Char :=
  let places := (-place).toNat
  let tail := withoutTrailingZeros (fraction places units)
  whole places (units * Nat.pow 10 place.toNat) ++ if tail.isEmpty then [] else '.' :: tail

def shortest (value : Float) : String :=
  match parts value with
  | .notANumber => "NaN"
  | .infinity sign => signText sign ++ "inf"
  | .zero sign => signText sign ++ "0"
  | .finite sign mantissa exponent _ =>
      let (units, place) := shortestPoint mantissa exponent
      signText sign ++ String.ofList (positional units place)

end NumberPattern.Decimal
