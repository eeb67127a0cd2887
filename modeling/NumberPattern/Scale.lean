import NumberPattern.Double.Power
import NumberPattern.Run

/-! Steps that scale the value and write the unit of the scaled value. -/

namespace NumberPattern.Scale

def percent : Effect := fun _ cell run => (run.write cell "%").rescale (run.value * 100.0)

def byteUnits : List String := ["B", "KB", "MB", "GB", "TB", "PB", "EB", "ZB", "YB"]

/-- The bound below which a size is written in the unit of this power of 1024. The last unit takes
every finite size. -/
def byteBound (power : Nat) : Float :=
  if power + 1 = byteUnits.length then 1.0 / 0.0 else Double.power 1024.0 (power + 1)

/-- The first unit, with its power of 1024, whose bound is above the size. -/
def byteUnit? (size : Float) : Option (String × Nat) :=
  byteUnits.zipIdx.find? fun unit => size < byteBound unit.2

def byteUnit : Effect := fun _ cell run =>
  match byteUnit? run.value.abs with
  | some (unit, power) => (run.write cell unit).rescale (run.value / Double.power 1024.0 power)
  | none => run

def abbreviate (choice : Abbreviation) : Effect := fun setting cell run =>
  match choice.choose run.value.abs with
  | some magnitude =>
      (run.write cell (setting.locale.words.word magnitude)).rescale (run.value / magnitude.divisor)
  | none => run

end NumberPattern.Scale
