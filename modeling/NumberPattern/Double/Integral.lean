/-! Integral rounding of doubles, computed exactly on sign, mantissa and exponent. A finite
double is `± mantissa * 2 ^ exponent`; a rounding rule decides from the bits below the point
whether the integral part of the magnitude is raised by one. -/

namespace NumberPattern.Double
open Float.Model (UnpackedFloat)
open Float.Model.UnpackedFloat (Sign)

def parts (value : Float) : UnpackedFloat := value.toModel.unpack

def isNegative : Sign → Bool
  | .negative => true
  | .positive => false

/-- The magnitude without its fraction. -/
def integralPart (mantissa : Nat) (exponent : Int) : Nat :=
  mantissa * Nat.pow 2 exponent.toNat / Nat.pow 2 (-exponent).toNat

/-- The mantissa bits below the point, in units of `2 ^ exponent`. -/
def fractionBits (mantissa : Nat) (exponent : Int) : Nat := mantissa % Nat.pow 2 (-exponent).toNat

def signed : Sign → Nat → Float
  | .positive, magnitude => Float.ofNat magnitude
  | .negative, magnitude => -Float.ofNat magnitude

/-- What a rule sees of a value that is not integral: its sign, and the dropped fraction as
`bits` of `unit`. The answer says whether the magnitude is raised. -/
abbrev Rule := Sign → (bits unit : Nat) → Bool

def roundBy (rule : Rule) (value : Float) : Float :=
  match parts value with
  | .finite sign mantissa exponent _ =>
      let bits := fractionBits mantissa exponent
      if bits = 0 then value
      else if rule sign bits (Nat.pow 2 (-exponent).toNat) then
        signed sign (integralPart mantissa exponent + 1)
      else signed sign (integralPart mantissa exponent)
  | _ => value

def truncate : Float → Float := roundBy fun _ _ _ => false

def floor : Float → Float := roundBy fun sign _ _ => isNegative sign

def ceiling : Float → Float := roundBy fun sign _ _ => !isNegative sign

/-- To nearest, ties away from zero. -/
def nearest : Float → Float := roundBy fun _ bits unit => decide (unit ≤ 2 * bits)

/-- What is left of a finite value after its integral part is taken away. It has the sign of the
value, also when it is zero. -/
def remainder (value : Float) : Float :=
  match parts value with
  | .finite sign mantissa exponent _ =>
      if fractionBits mantissa exponent = 0 then signed sign 0 else value - truncate value
  | .zero _ => value
  | _ => 0.0 / 0.0

/-- The integral part as an integer kept within `low` and `high`; zero stands for a value that is
not a number. -/
def clampedInt (low high : Int) (value : Float) : Int :=
  match parts value with
  | .notANumber => 0
  | .infinity sign => if isNegative sign then low else high
  | .zero _ => max low (min high 0)
  | .finite sign mantissa exponent _ =>
      max low (min high (sign.apply (integralPart mantissa exponent)))

end NumberPattern.Double
