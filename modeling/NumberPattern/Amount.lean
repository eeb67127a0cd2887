import NumberPattern.Decimal.Shortest
import NumberPattern.Double.Power
import NumberPattern.Run

/-! Steps that write the digits of the value: the integer part, its thousands groups, the decimal
point and the decimals. -/

namespace NumberPattern.Amount
open Decimal (Split)

/-- No more decimals than this are ever written. -/
def maxPlaces : Nat := 100

/-- The value rounded to a number of decimals: scaled by a power of ten, rounded, scaled back. A value
too large to be scaled has no decimals left to round. -/
def roundAt (rounding : Float → Float) (places : Nat) (value : Float) : Float :=
  let power := Double.power 10.0 places
  let scaled := value * power
  if scaled.isFinite then rounding scaled / power else value

/-- The digits before and after the point of the rounded value. Adding zero turns a negative zero
into a positive one. -/
def split (rounding : Float → Float) (places : Nat) (value : Float) : Split :=
  let places := min places maxPlaces
  Decimal.fixed places (roundAt rounding places value + 0.0)

/-- A separator follows each digit that has a positive multiple of three further digits after it. -/
def groupDigits (separator : List Char) : List Char → List Char
  | [] => []
  | c :: rest =>
      let further := (rest.takeWhile Char.isDigit).length
      if c.isDigit ∧ further ≠ 0 ∧ further % 3 = 0 then
        c :: (separator ++ groupDigits separator rest)
      else c :: groupDigits separator rest

def groupThousands (separator text : String) : String :=
  String.ofList (groupDigits separator.toList text.toList)

/-- With decimals in the pattern the integer digits and the decimals come from one rounding. -/
def integer : Effect := fun setting cell run =>
  let signed := if run.isNegative then { run with signCell := some cell } else run
  match setting.precision.places with
  | none | some 0 => signed.write cell (Decimal.shortest (setting.rounding run.value + 0.0))
  | some places =>
      let digits := split setting.rounding places run.value
      { signed.write cell digits.whole with fraction := some digits.fraction }

def group : Effect := fun setting _ run =>
  match setting.layout.tokenCell? .integer with
  | none => run
  | some cell =>
      match run.cells.text? cell with
      | some text => run.write cell (groupThousands setting.locale.group text)
      | none => run

def writePoint (point : String) (cell : Nat) (run : Run) : Run :=
  if run.isNegative && run.signCell.isNone then
    { run.write cell ("-" ++ point) with signCell := some cell }
  else run.write cell point

/-- An optional point is left out of a value without a fraction. -/
def point (optional : Bool) : Effect := fun setting cell run =>
  if optional then
    if run.remainder == 0.0 then run
    else writePoint setting.locale.point cell { run with optionalPoint := true }
  else writePoint setting.locale.point cell run

/-- The text without the zeros at its end, of which at most `limit` are dropped. -/
def trimZeros (limit : Nat) (text : List Char) : List Char :=
  text.take (text.length - min limit (text.reverse.takeWhile (· = '0')).length)

/-- The decimals before any are trimmed. -/
def decimalsOf (setting : Setting) (places : Nat) (run : Run) : String :=
  match run.fraction with
  | some fraction =>
      if fraction.isEmpty then (split setting.rounding places run.remainder).fraction else fraction
  | none => (split setting.rounding places run.remainder).fraction

/-- Decimals follow a point that was written. When none are left, or only zeros behind an optional
point, the point goes too. -/
def decimals (places optional : Nat) : Effect := fun setting cell run =>
  match setting.layout.tokenCell? .point with
  | none => run
  | some pointCell =>
      if run.cells.isFilled pointCell then
        let digits := trimZeros optional (decimalsOf setting places run).toList
        let significant := !run.optionalPoint || digits.any (· ≠ '0')
        if !digits.isEmpty && significant then run.write cell (String.ofList digits)
        else { run with cells := run.cells.clear pointCell }
      else run

end NumberPattern.Amount
