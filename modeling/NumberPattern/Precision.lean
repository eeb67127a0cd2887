/-! The decimals that a pattern asks for. Claims report fragments while a pattern is scanned; the
merged fragments are known to every step, also to those that run before the decimals. -/

namespace NumberPattern

structure Precision where
  /-- All decimals, the optional ones included. -/
  places : Option Nat := none
  /-- The decimals at the end that are dropped when they are zeros. -/
  optional : Option Nat := none
deriving DecidableEq, Repr

/-- What the fragment sets replaces what was set before. -/
def Precision.merge (precision fragment : Precision) : Precision where
  places := fragment.places.or precision.places
  optional := fragment.optional.or precision.optional

end NumberPattern
