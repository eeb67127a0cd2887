import NumberPattern.Double.Integral

/-! The rounding that applies when none is named. -/

namespace NumberPattern

/-- To nearest, ties toward positive infinity. -/
def roundHalfUp (value : Float) : Float :=
  let low := Double.floor value
  if 0.5 ≤ value - low then low + 1.0 else low

end NumberPattern
