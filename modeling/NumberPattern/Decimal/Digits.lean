/-! Decimal digits of natural numbers, most significant first. `whole` and `fraction` read a
natural number as a count of units `10 ^ (-places)`. -/

namespace NumberPattern.Decimal

def digits (n : Nat) : List Char := Nat.toDigits 10 n

/-- At least `width` digits: shorter numbers get leading zeros. -/
def padded (width n : Nat) : List Char :=
  List.replicate (width - (digits n).length) '0' ++ digits n

def whole (places n : Nat) : List Char := digits (n / Nat.pow 10 places)

/-- Exactly `places` digits, hence none at all when `places` is zero. -/
def fraction (places n : Nat) : List Char :=
  if places = 0 then [] else padded places (n % Nat.pow 10 places)

/-- The quotient rounded to the nearest natural number, a tie going to the even one. -/
def nearestEven (numerator denominator : Nat) : Nat :=
  let quotient := numerator / denominator
  let rest := 2 * (numerator % denominator)
  if rest < denominator then quotient
  else if denominator < rest then quotient + 1
  else quotient + quotient % 2

/-- All but the zeros at the end. -/
def withoutTrailingZeros (text : List Char) : List Char :=
  (text.reverse.dropWhile (· = '0')).reverse

theorem fraction_zero (n : Nat) : fraction 0 n = [] := rfl

theorem length_padded (width n : Nat) : (padded width n).length = max width (digits n).length := by
  simp only [padded, List.length_append, List.length_replicate]
  omega

end NumberPattern.Decimal
