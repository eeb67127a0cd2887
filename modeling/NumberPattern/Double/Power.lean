/-! Powers of a double by repeated squaring. Each product is rounded, so the order of the
multiplications is part of the result: the factors belonging to the binary digits of the exponent
are multiplied from the lowest digit up. -/

namespace NumberPattern.Double

/-- `result * square ^ exponent`; `room` bounds the binary digits of the exponent. -/
def powerFrom : (room : Nat) → (result square : Float) → (exponent : Nat) → Float
  | 0, result, _, _ => result
  | room + 1, result, square, exponent =>
      let product := if exponent % 2 = 1 then result * square else result
      if exponent / 2 = 0 then product
      else powerFrom room product (square * square) (exponent / 2)

def power (base : Float) (exponent : Nat) : Float :=
  powerFrom (exponent.log2 + 1) 1.0 base exponent

end NumberPattern.Double
