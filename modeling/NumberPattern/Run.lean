import NumberPattern.Cells
import NumberPattern.Double.Integral
import NumberPattern.Layout
import NumberPattern.Locale
import NumberPattern.Precision

/-! The state that the steps of a plan pass on from one to the next while one value is rendered, and
the setting in which they work. -/

namespace NumberPattern

/-- What the steps go by. A step of the user may set other terms for the steps after it. -/
structure Terms where
  /-- Applied wherever a value is cut to a number of digits. -/
  rounding : Float → Float
  locale : Locale
  precision : Precision

/-- The layout stays the same for the whole run. -/
structure Setting extends Terms where
  layout : Layout

structure Run where
  /-- The value as the steps so far have scaled it. -/
  value : Float
  /-- The fraction of `value`, with its sign. -/
  remainder : Float
  /-- Decimals found together with the integer digits. -/
  fraction : Option String := none
  /-- Set when an optional point was written. -/
  optionalPoint : Bool := false
  /-- The cell that shows the sign. -/
  signCell : Option Nat := none
  cells : Cells

namespace Run

def start (value : Float) (count : Nat) : Run where
  value := value
  remainder := Double.remainder value
  cells := Cells.blank count

def rescale (run : Run) (value : Float) : Run :=
  { run with value := value, remainder := Double.remainder value }

def write (run : Run) (cell : Nat) (text : String) : Run :=
  { run with cells := run.cells.write cell text }

def isNegative (run : Run) : Bool := run.value < 0.0

end Run

/-- What a step does to the run, writing to the given cell. -/
abbrev Effect := Setting → (cell : Nat) → Run → Run

/-- What a step of the user does: the terms for the steps after it, and the run. -/
abbrev CustomEffect := Setting → (cell : Nat) → Run → Terms × Run

/-- The effect, with the terms left as they are. -/
def Effect.onTerms (effect : Effect) : CustomEffect := fun setting cell run =>
  (setting.toTerms, effect setting cell run)

end NumberPattern
