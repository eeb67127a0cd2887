import NumberPattern.Magnitude
import NumberPattern.Ordinal

/-! The texts that a locale puts into a number. -/

namespace NumberPattern

/-- The defaults are the English ones. -/
structure Locale where
  point : String := "."
  group : String := ","
  words : MagnitudeWords := {}
  ordinal : OrdinalRule := .english
  currency : String := "$"
deriving DecidableEq, Repr

end NumberPattern
