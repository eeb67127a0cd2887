import NumberPattern.Double.Integral

/-! The bit pattern of a double as text. -/

namespace NumberPattern.Double

/-- Sixteen hexadecimal digits. Every value that is not a number has the same text. -/
def bitsText (value : Float) : String :=
  if value.isNaN then "NaN"
  else
    let digits := Nat.toDigits 16 value.toBits.toNat
    "0x" ++ String.ofList (List.replicate (16 - digits.length) '0' ++ digits)

end NumberPattern.Double
