import NumberPattern.Decimal.Digits
import NumberPattern.Double.Integral

/-! The text of a double with a fixed number of decimals: the exact binary value, rounded half to
even at the last decimal. -/

namespace NumberPattern.Decimal
open Double (parts isNegative)
open Float.Model.UnpackedFloat (Sign)

/-- A number text cut at its point. The whole part carries the sign. -/
structure Split where
  whole : String
  fraction : String
deriving DecidableEq, Repr

def signText (sign : Sign) : String := if isNegative sign then "-" else ""

/-- `mantissa * 2 ^ exponent` in units of `10 ^ (-places)`. -/
def unitsAt (places mantissa : Nat) (exponent : Int) : Nat :=
  nearestEven (mantissa * Nat.pow 10 places * Nat.pow 2 exponent.toNat) (Nat.pow 2 (-exponent).toNat)

def Split.ofUnits (sign : Sign) (places units : Nat) : Split where
  whole := signText sign ++ String.ofList (Decimal.whole places units)
  fraction := String.ofList (Decimal.fraction places units)

/-- Words stand for the values that have no digits. -/
def fixed (places : Nat) (value : Float) : Split :=
  match parts value with
  | .notANumber => ⟨"NaN", ""⟩
  | .infinity sign => ⟨signText sign ++ "inf", ""⟩
  | .zero sign => .ofUnits sign places 0
  | .finite sign mantissa exponent _ => .ofUnits sign places (unitsAt places mantissa exponent)

end NumberPattern.Decimal
