import NumberPattern.Decimal.Fixed
import NumberPattern.Proofs.Double.Roundings

/-! When the text of a double with a fixed number of decimals has the numeral of an integer before the point. -/

namespace NumberPattern.Decimal
open Double (parts isNegative integralPart fractionBits whole? IsWhole Canonical Amounts)
open Float.Model (UnpackedFloat)
open Float.Model.UnpackedFloat (Sign)

variable {sign sign' : Sign} {mantissa n m places : Nat} {exponent : Int} {value : Float}

theorem toString_nat (n : Nat) : toString n = String.ofList (digits n) := Nat.toString_eq_ofList_toDigits

/-- The numeral of an integer is its sign before the digits of its magnitude. -/
theorem toString_apply (sign : Sign) (positive : 0 < n) :
    toString (sign.apply n) = signText sign ++ String.ofList (digits n) := by
  obtain ⟨k, rfl⟩ := Nat.exists_eq_succ_of_ne_zero positive.ne'
  cases sign with
  | positive =>
    rw [← toString_nat]
    exact (String.empty_append ..).symm
  | negative =>
    rw [← toString_nat]
    rfl

theorem digits_inj : digits n = digits m ↔ n = m := by
  constructor
  · intro same
    have read := congrArg (Nat.ofDigitChars 10 · 0) same
    simpa [digits, Nat.ofDigitChars_ten_toDigits] using read
  · rintro rfl
    rfl

/-- A sign before digits tells the sign and the number apart. -/
theorem signText_digits_inj :
    signText sign ++ String.ofList (digits n) = signText sign' ++ String.ofList (digits m) ↔
      sign = sign' ∧ n = m := by
  have bare (n m : Nat) : digits n ≠ '-' :: digits m := by
    intro same
    have first : '-' ∈ digits n := by rw [same]; exact List.mem_cons_self
    have digit := Nat.isDigit_of_mem_toDigits (by decide) (by decide) first
    cases digit
  rw [← String.toList_inj]
  cases sign with
  | positive =>
    cases sign' with
    | positive => simp [signText, isNegative, digits_inj]
    | negative => simp [signText, isNegative, String.toList_append, bare]
  | negative =>
    cases sign' with
    | positive => simp [signText, isNegative, String.toList_append, (bare _ _).symm]
    | negative => simp [signText, isNegative, digits_inj]

/-! The nearest number to an exact quotient is the quotient, and any other is within a half of it. -/

theorem nearestEven_mul (n : Nat) {denominator : Nat} (positive : 0 < denominator) :
    nearestEven (n * denominator) denominator = n := by
  unfold nearestEven
  simp [Nat.mul_div_cancel _ positive, positive]

theorem le_nearestEven (numerator denominator : Nat) :
    numerator / denominator ≤ nearestEven numerator denominator := by
  unfold nearestEven
  dsimp only
  split
  · exact Nat.le_refl _
  split
  · exact Nat.le_succ _
  · exact Nat.le_add_right _ _

theorem nearestEven_le (numerator denominator : Nat) :
    2 * (nearestEven numerator denominator * denominator) ≤ 2 * numerator + denominator := by
  have split : numerator / denominator * denominator + numerator % denominator = numerator :=
    Nat.div_add_mod' numerator denominator
  unfold nearestEven
  dsimp only
  split
  next low => omega
  split
  next high =>
    rw [Nat.add_mul]
    omega
  next tie =>
    rcases Nat.mod_two_eq_zero_or_one (numerator / denominator) with even | odd
    · rw [even, Nat.add_zero]
      omega
    · rw [odd, Nat.add_mul]
      omega

theorem unitsAt_of_amounts (amounts : Amounts mantissa exponent n) (places : Nat) :
    unitsAt places mantissa exponent = n * 10 ^ places := by
  have scaled : mantissa * Nat.pow 10 places * Nat.pow 2 exponent.toNat =
      n * 10 ^ places * Nat.pow 2 (-exponent).toNat := by
    calc
      mantissa * 10 ^ places * 2 ^ exponent.toNat
      _ = mantissa * 2 ^ exponent.toNat * 10 ^ places := Nat.mul_right_comm ..
      _ = n * 2 ^ (-exponent).toNat * 10 ^ places := by rw [amounts]
      _ = n * 10 ^ places * 2 ^ (-exponent).toNat := Nat.mul_right_comm ..
  rw [unitsAt, scaled]
  exact nearestEven_mul _ (Nat.pow_pos (by decide))

/-- The units of a value with a fraction lie about the value: no fewer than those of its integral part, and
no more than half a unit above it. -/
theorem unitsAt_bounds (mantissa : Nat) (small : exponent < 0) (places : Nat) :
    integralPart mantissa exponent * 10 ^ places ≤ unitsAt places mantissa exponent ∧
      2 * (unitsAt places mantissa exponent * 2 ^ (-exponent).toNat) ≤
        2 * (mantissa * 10 ^ places) + 2 ^ (-exponent).toNat := by
  have none : exponent.toNat = 0 := by omega
  have same : unitsAt places mantissa exponent =
      nearestEven (mantissa * 10 ^ places) (2 ^ (-exponent).toNat) := by
    rw [unitsAt, none]
    exact congrArg (nearestEven · _) (Nat.mul_one _)
  rw [same, Double.integralPart_of_neg small]
  refine ⟨?_, nearestEven_le ..⟩
  apply le_trans _ (le_nearestEven ..)
  rw [Nat.le_div_iff_mul_le (by positivity), Nat.mul_right_comm]
  exact Nat.mul_le_mul_right _ (Nat.div_mul_le_self ..)

section Carry

variable {part unit units five ten : Nat} (inside : part * unit ≤ mantissa ∧ mantissa < (part + 1) * unit)
  (most : 2 * (units * unit) ≤ 2 * (mantissa * ten) + unit)
include inside most

/-- A carry needs a unit of more than two steps of the last decimal. -/
theorem unit_of_carry (carry : (part + 1) * ten ≤ units) : 2 * ten ≤ unit := by
  have raised : 2 * ((mantissa + 1) * ten) ≤ 2 * (mantissa * ten) + unit := by
    calc
      2 * ((mantissa + 1) * ten) ≤ 2 * ((part + 1) * unit * ten) := by gcongr; exact inside.2
      _ = 2 * ((part + 1) * ten * unit) := by ring
      _ ≤ 2 * (units * unit) := by gcongr
      _ ≤ 2 * (mantissa * ten) + unit := most
  rw [Nat.add_mul] at raised
  omega

/-- Values that are too far apart for the number of decimals leave no room for a carry. -/
theorem div_eq_iff_of_sparse (least : part * ten ≤ units) (positive : 0 < ten) (fine : five ≤ ten) (bits : mantissa < 2 ^ 53)
    (sparse : 2 ^ 53 < n * five) : units / ten = n ↔ part = n := by
  constructor
  · rintro rfl
    have enough : part ≤ units / ten := (Nat.le_div_iff_mul_le positive).mpr least
    by_contra different
    have carry : (part + 1) * ten ≤ units := by
      rw [← Nat.le_div_iff_mul_le positive]
      omega
    have wide := unit_of_carry inside most carry
    have filled : 0 < unit := by omega
    have few : 2 * (units / ten * ten) ≤ mantissa + 1 := by
      apply Nat.le_of_mul_le_mul_right _ filled
      calc
        2 * (units / ten * ten) * unit = 2 * (units / ten * ten * unit) := by ring
        _ ≤ 2 * (units * unit) := by gcongr; exact Nat.div_mul_le_self ..
        _ ≤ 2 * (mantissa * ten) + unit := most
        _ = mantissa * (2 * ten) + unit := by ring
        _ ≤ mantissa * unit + unit := by gcongr
        _ = (mantissa + 1) * unit := by ring
    have many : units / ten * five ≤ units / ten * ten := Nat.mul_le_mul_left _ fine
    omega
  · rintro rfl
    apply Nat.div_eq_of_lt_le
    · exact least
    · by_contra carry
      have wide := unit_of_carry inside most (Nat.le_of_not_lt carry)
      have narrow : part * unit < part * five := by omega
      have less := Nat.lt_of_mul_lt_mul_left narrow
      omega

end Carry

/-- The digits before the point are those of the integral part, unless rounding to the last decimal carries
into them, which it does not where the doubles are too far apart for the number of decimals. -/
theorem unitsAt_div_eq_iff (bits : mantissa < 2 ^ 53) (sparse : 2 ^ 53 < n * 5 ^ places) :
    unitsAt places mantissa exponent / 10 ^ places = n ↔ integralPart mantissa exponent = n := by
  by_cases large : 0 ≤ exponent
  · have amounts : Amounts mantissa exponent _ := Double.amounts_of_nonneg large
    rw [unitsAt_of_amounts amounts, Nat.mul_div_cancel _ (by positivity), (Double.amounts_iff_bits.mp amounts).2]
  · obtain ⟨least, most⟩ := unitsAt_bounds mantissa (show exponent < 0 by omega) places
    apply div_eq_iff_of_sparse _ most least (by positivity) (Nat.pow_le_pow_left (by decide) places) bits sparse
    rw [Double.integralPart_of_neg (by omega)]
    exact ⟨Nat.div_mul_le_self .., Nat.lt_mul_of_div_lt (Nat.lt_succ_self _) (by positivity)⟩

theorem fixed_finite {positive : 0 < mantissa} (found : parts value = .finite sign mantissa exponent positive)
    (places : Nat) :
    (fixed places value).whole =
      signText sign ++ String.ofList (digits (unitsAt places mantissa exponent / 10 ^ places)) := by
  rw [fixed, found]
  rfl

theorem fixed_zero (found : parts value = .zero sign) (places : Nat) :
    (fixed places value).whole = signText sign ++ String.ofList (digits 0) := by
  have none : 0 / Nat.pow 10 places = 0 := Nat.zero_div _
  rw [fixed, found]
  simp only [Split.ofUnits, whole, none]

/-- The characters of a numeral. -/
theorem mem_numeral {c : Char} (member : c ∈ (signText sign ++ String.ofList (digits n)).toList) :
    c = '-' ∨ c.isDigit = true := by
  rw [String.toList_append, String.toList_ofList, List.mem_append] at member
  rcases member with first | digit
  · cases sign with
    | positive => cases first
    | negative => exact Or.inl (List.mem_singleton.mp first)
  · exact Or.inr (Nat.isDigit_of_mem_toDigits (by decide) (by decide) digit)

theorem numeral_ne {text : String} {c : Char} (member : c ∈ text.toList) (foreign : c ≠ '-')
    (foreign' : c.isDigit = false) : text ≠ signText sign ++ String.ofList (digits n) := by
  rintro rfl
  rcases mem_numeral member with rfl | digit
  · exact foreign rfl
  · rw [foreign'] at digit
    cases digit

/-- The text before the point is the numeral of the integral part, where doubles are too far apart for a
carry into it. -/
theorem fixed_whole_iff {a : Int} (some_ : a ≠ 0) (sparse : 2 ^ 53 < a.natAbs * 5 ^ places) :
    (fixed places value).whole = toString a ↔ whole? (Double.truncate value) = some a := by
  obtain ⟨sign, n, positive, rfl⟩ : ∃ (sign : Sign) (n : Nat), 0 < n ∧ a = sign.apply n := by
    rcases Int.lt_or_gt_of_ne some_ with below | above
    · exact ⟨.negative, a.natAbs, by omega, by rw [Sign.apply]; omega⟩
    · exact ⟨.positive, a.natAbs, by omega, by rw [Sign.apply]; omega⟩
  rw [Double.natAbs_apply] at sparse
  rw [toString_apply sign positive, Double.whole?_truncate]
  have held := Double.isStored_parts value
  cases found : parts value with
  | notANumber =>
    have text : (fixed places value).whole = "NaN" := by rw [fixed, found]
    rw [text]
    apply iff_of_false
    · exact numeral_ne (c := 'N') (by decide) (by decide) (by decide)
    · exact (Option.some_ne_none _).symm
  | infinity sign' =>
    have text : (fixed places value).whole = signText sign' ++ "inf" := by rw [fixed, found]
    have member : 'f' ∈ (signText sign' ++ "inf").toList := by cases sign' <;> decide
    rw [text]
    apply iff_of_false
    · exact numeral_ne member (by decide) (by decide)
    · exact (Option.some_ne_none _).symm
  | zero sign' =>
    change _ ↔ some 0 = some (sign.apply n)
    rw [fixed_zero found, signText_digits_inj, Option.some.injEq]
    apply iff_of_false
    · intro same
      exact positive.ne same.2
    · exact some_.symm
  | finite sign' mantissa exponent positive' =>
    rw [found] at held
    rw [fixed_finite found, signText_digits_inj, unitsAt_div_eq_iff held.1.bits sparse, Double.integerOf_finite,
      Option.some.injEq, eq_comm (b := sign.apply n), Double.apply_inj positive, eq_comm (a := sign'),
      eq_comm (b := n)]

theorem fixed_of_whole {a : Int} (whole : whole? value = some a) (places : Nat) :
    (fixed places (value + 0.0)).whole = toString a := by
  have sum := Double.parts_add_zero value
  rcases Double.parts_of_whole whole with
    ⟨sign, found, rfl⟩ | ⟨sign, mantissa, exponent, positive, n, found, _, amounts, rfl⟩
  · rw [found] at sum
    rw [fixed_zero sum]
    rfl
  · rw [found] at sum
    rw [fixed_finite sum, unitsAt_of_amounts amounts, Nat.mul_div_cancel _ (by positivity),
      toString_apply sign (amounts.pos positive)]

end NumberPattern.Decimal
