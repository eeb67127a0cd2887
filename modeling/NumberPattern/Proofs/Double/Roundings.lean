import NumberPattern.Proofs.Double.Whole

/-! The roundings to an integer. They leave whole numbers as they are and make whole numbers of all finite
values, and only whole numbers are without a remainder. -/

namespace NumberPattern.Double
open Float.Model (UnpackedFloat Format)
open Float.Model.UnpackedFloat (Sign)

variable {value other : Float} {a b : Int} {sign : Sign} {mantissa n : Nat} {exponent : Int}
  {rounding : Float → Float}

theorem whole?_mul (whole : whole? value = some a) (whole' : whole? other = some b)
    (finite : (value * other).isFinite = true) :
    ∃ c, whole? (value * other) = some c ∧ (Fits (a * b).natAbs → c = a * b) := by
  obtain ⟨c, product, same⟩ := (whole?_eq_some.mp whole).mul (whole?_eq_some.mp whole')
  exact ⟨c, whole?_eq_some.mpr (product.stored finite), same⟩

theorem whole?_mul_of_le (whole : whole? value = some a) (whole' : whole? other = some b)
    (small : (a * b).natAbs ≤ 2 ^ 53) : whole? (value * other) = some (a * b) := by
  obtain ⟨c, product, same⟩ := (whole?_eq_some.mp whole).mul (whole?_eq_some.mp whole')
  obtain rfl := same (fits_of_le small)
  exact whole?_eq_some.mpr (product.stored_of_le small)

theorem whole?_add (whole : whole? value = some a) (whole' : whole? other = some b)
    (small : (a + b).natAbs ≤ 2 ^ 53) : whole? (value + other) = some (a + b) := by
  obtain ⟨c, sum, same⟩ := (whole?_eq_some.mp whole).add (whole?_eq_some.mp whole')
  obtain rfl := same (fits_of_le small)
  exact whole?_eq_some.mpr (sum.stored_of_le small)

/-- A product of doubles is divided without loss by one of them. -/
theorem whole?_div {factor : Float} (whole : whole? value = some (a * b)) (whole' : whole? other = some b)
    (some_ : b ≠ 0) (held : whole? factor = some a) : whole? (value / other) = some a := by
  have quotient := (whole?_eq_some.mp whole).div (whole?_eq_some.mp whole') some_ (fits_of_whole held)
  exact whole?_eq_some.mpr (quotient.stored_of_whole held)

theorem whole?_neg (whole : whole? value = some a) (small : a.natAbs ≤ 2 ^ 53) : whole? (-value) = some (-a) :=
  whole?_eq_some.mpr ((whole?_eq_some.mp whole).neg.stored_of_le (by rwa [Int.natAbs_neg]))

theorem whole?_toFloat {n : UInt64} (small : n.toNat ≤ 2 ^ 53) : whole? n.toFloat = some (n.toNat : Int) := by
  have amounts : (n.toNat : Int) * 2 ^ (0 : Int).toNat = n.toNat * 2 ^ (-0 : Int).toNat := rfl
  obtain ⟨c, whole, same⟩ := isWhole_normalize amounts
  obtain rfl := same (fits_of_le small)
  exact whole?_eq_some.mpr (whole.stored_of_le small)

theorem whole?_ofNat {n : Nat} (small : n < 2 ^ 53) : whole? (Float.ofNat n) = some (n : Int) := by
  have literal : Float.ofNat n = n.toUInt64.toFloat * Float.exactlyRepresentablePowersOfTen[0] := by
    change Float.ofScientific n false 0 = _
    rw [Float.ofScientific, dif_pos ⟨small, by decide⟩]
    rfl
  have kept : n.toUInt64.toNat = n := Nat.mod_eq_of_lt (by omega)
  have stored := whole?_toFloat (n := n.toUInt64) (by omega)
  rw [kept] at stored
  have one : whole? Float.exactlyRepresentablePowersOfTen[0] = some 1 := by decide +kernel
  have product := whole?_mul_of_le stored one (by omega)
  rw [literal, product, Int.mul_one]

theorem whole?_signed (sign : Sign) {n : Nat} (small : n < 2 ^ 53) : whole? (signed sign n) = some (sign.apply n) := by
  have magnitude := whole?_ofNat small
  cases sign with
  | positive => exact magnitude
  | negative => exact whole?_neg magnitude (by omega)

/-- A finite value that is no whole number has few bits before the point. -/
theorem integralPart_lt (bits : mantissa < 2 ^ 53) (some_ : fractionBits mantissa exponent ≠ 0) :
    integralPart mantissa exponent < 2 ^ 52 := by
  have small : exponent < 0 := by
    by_contra large
    have none : (-exponent).toNat = 0 := by omega
    apply some_
    rw [fractionBits, none]
    exact Nat.mod_one mantissa
  have unit : 2 ^ 1 ≤ 2 ^ (-exponent).toNat := Nat.pow_le_pow_right (by decide) (by omega)
  rw [integralPart_of_neg small, Nat.div_lt_iff_lt_mul (by positivity)]
  calc
    mantissa < 2 ^ 52 * 2 ^ 1 := bits
    _ ≤ 2 ^ 52 * 2 ^ (-exponent).toNat := Nat.mul_le_mul_left _ unit

theorem roundBy_of_whole (rule : Rule) (whole : whole? value = some a) : roundBy rule value = value := by
  unfold whole? at whole
  unfold roundBy
  split
  next sign mantissa exponent _ found =>
    rw [found, wholeOf_finite] at whole
    split at whole
    next none => exact if_pos none
    · cases whole
  next => rfl

theorem roundBy_of_fraction (rule : Rule) {positive : 0 < mantissa}
    (found : parts value = .finite sign mantissa exponent positive) (broken : fractionBits mantissa exponent ≠ 0) :
    roundBy rule value =
      if rule sign (fractionBits mantissa exponent) (Nat.pow 2 (-exponent).toNat) then
        signed sign (integralPart mantissa exponent + 1)
      else signed sign (integralPart mantissa exponent) := by
  rw [roundBy, found]
  exact if_neg broken

theorem truncate_of_fraction {positive : 0 < mantissa}
    (found : parts value = .finite sign mantissa exponent positive) (broken : fractionBits mantissa exponent ≠ 0) :
    truncate value = signed sign (integralPart mantissa exponent) := roundBy_of_fraction _ found broken

/-- A finite value that is no whole number is rounded to a small one. -/
theorem whole?_roundBy (rule : Rule) (finite : value.isFinite = true) (broken : whole? value = none) :
    ∃ a : Int, a.natAbs ≤ 2 ^ 52 ∧ whole? (roundBy rule value) = some a := by
  have held := isStored_parts value
  change (parts value).isFinite = true at finite
  unfold whole? at broken
  cases found : parts value with
  | notANumber | infinity => rw [found] at finite; cases finite
  | zero sign => rw [found] at broken; cases broken
  | finite sign mantissa exponent positive =>
    rw [found] at held broken
    have bits : fractionBits mantissa exponent ≠ 0 := by
      intro none
      rw [wholeOf_finite, if_pos none] at broken
      cases broken
    have few := integralPart_lt held.1.bits bits
    rw [roundBy_of_fraction rule found bits]
    split
    · exact ⟨_, by rw [natAbs_apply]; omega, whole?_signed sign (by omega)⟩
    · exact ⟨_, by rw [natAbs_apply]; omega, whole?_signed sign (by omega)⟩

theorem le_iff : value ≤ other ↔ ((parts value).compare (parts other)).any (·.isLE) = true := by
  change decide (value.toModel ≤ other.toModel) = true ↔ _
  rw [decide_eq_true_eq]
  rfl

/-- A whole number has no fraction to round up. -/
theorem roundHalfUp_of_whole (whole : whole? value = some a) : roundHalfUp value = value := by
  have low : floor value = value := roundBy_of_whole _ whole
  have nothing : parts (value - value) = .zero .positive := by
    change stored (UnpackedFloat.sub Format.binary64 (parts value) (parts value)) = _
    rw [(whole?_eq_some.mp whole).sub_self]
    rfl
  have below : ¬ 0.5 ≤ value - value := by
    rw [le_iff, nothing]
    decide +kernel
  unfold roundHalfUp
  simp only [low, if_neg below]

theorem whole?_roundHalfUp (finite : value.isFinite = true) : ∃ a, whole? (roundHalfUp value) = some a := by
  cases found : whole? value with
  | some a => exact ⟨a, by rw [roundHalfUp_of_whole found, found]⟩
  | none =>
    obtain ⟨low, small, whole⟩ := whole?_roundBy (fun sign _ _ => isNegative sign) finite found
    have one : whole? 1.0 = some 1 := by decide +kernel
    unfold roundHalfUp
    dsimp only
    split
    · exact ⟨low + 1, whole?_add whole one (by omega)⟩
    · exact ⟨low, whole⟩

theorem roundings_cases (known : rounding ∈ roundings) :
    rounding = roundHalfUp ∨ ∃ rule, rounding = roundBy rule := by
  simp only [roundings, List.mem_cons, List.not_mem_nil, or_false] at known
  rcases known with rfl | rfl | rfl | rfl | rfl
  · exact Or.inl rfl
  all_goals exact Or.inr ⟨_, rfl⟩

/-- The roundings leave whole numbers as they are. -/
theorem rounding_of_whole (known : rounding ∈ roundings) (whole : whole? value = some a) : rounding value = value := by
  rcases roundings_cases known with rfl | ⟨rule, rfl⟩
  · exact roundHalfUp_of_whole whole
  · exact roundBy_of_whole rule whole

/-- The roundings make whole numbers of finite values. -/
theorem whole?_rounding (known : rounding ∈ roundings) (finite : value.isFinite = true) :
    ∃ a, whole? (rounding value) = some a := by
  rcases roundings_cases known with rfl | ⟨rule, rfl⟩
  · exact whole?_roundHalfUp finite
  · cases found : whole? value with
    | some a => exact ⟨a, by rw [roundBy_of_whole rule found, found]⟩
    | none =>
      obtain ⟨a, _, whole⟩ := whole?_roundBy rule finite found
      exact ⟨a, whole⟩

/-- The integral part of a finite value. -/
def integerOf : UnpackedFloat → Option Int
  | .zero _ => some 0
  | .finite sign mantissa exponent _ => some (sign.apply (integralPart mantissa exponent))
  | _ => none

theorem integerOf_finite (positive : 0 < mantissa) : integerOf (.finite sign mantissa exponent positive) =
    some (sign.apply (integralPart mantissa exponent)) := rfl

theorem whole?_truncate (value : Float) : whole? (truncate value) = integerOf (parts value) := by
  have held := isStored_parts value
  cases found : parts value with
  | notANumber | infinity | zero => rw [truncate, roundBy, found, whole?, found]; rfl
  | finite sign mantissa exponent positive =>
    rw [found] at held
    by_cases bits : fractionBits mantissa exponent = 0
    · have whole : whole? value = some (sign.apply (integralPart mantissa exponent)) := by
        rw [whole?, found, wholeOf_finite, if_pos bits]
      rw [truncate, roundBy_of_whole _ whole, whole]
      rfl
    · have few := integralPart_lt held.1.bits bits
      rw [truncate_of_fraction found bits]
      exact whole?_signed sign (by omega)

theorem beq_iff : (value == other) = true ↔ (parts value).compare (parts other) = some .eq := by
  change ((parts value).compare (parts other) == some .eq) = true ↔ _
  exact beq_iff_eq

/-- What equals a whole number is the same whole number. -/
theorem beq_iff_whole (whole : whole? other = some a) : (value == other) = true ↔ whole? value = some a := by
  rw [beq_iff, (whole?_eq_some.mp whole).compare_eq (isStored_parts value), whole?_eq_some]

theorem beq_zero_iff : (value == 0.0) = true ↔ ∃ sign, parts value = .zero sign := by
  have zero : whole? 0.0 = some 0 := rfl
  rw [beq_iff_whole zero]
  constructor
  · intro whole
    rcases parts_of_whole whole with ⟨sign, found, _⟩ | ⟨sign, _, _, positive, n, _, _, amounts, none⟩
    · exact ⟨sign, found⟩
    · exact absurd none.symm (apply_ne_zero sign (amounts.pos positive))
  · rintro ⟨sign, found⟩
    rw [whole?, found]
    rfl

/-- Only whole numbers are without a remainder. -/
theorem whole?_of_remainder (none : (remainder value == 0.0) = true) : ∃ a, whole? value = some a := by
  obtain ⟨sign', zero⟩ := beq_zero_iff.mp none
  have held := isStored_parts value
  unfold remainder at zero
  cases found : parts value with
  | notANumber | infinity =>
    have invalid : parts (0.0 / 0.0) = .notANumber := rfl
    rw [found] at zero
    cases invalid.symm.trans zero
  | zero sign => exact ⟨0, by rw [whole?, found]; rfl⟩
  | finite sign mantissa exponent positive =>
    rw [found] at zero held
    by_cases bits : fractionBits mantissa exponent = 0
    · exact ⟨_, by rw [whole?, found, wholeOf_finite, if_pos bits]⟩
    · have few := integralPart_lt held.1.bits bits
      have part := whole?_signed sign (n := integralPart mantissa exponent) (by omega)
      simp only [bits, if_false] at zero
      rw [truncate_of_fraction found bits] at zero
      change stored (UnpackedFloat.sub Format.binary64 (parts value) (parts (signed sign _))) = _ at zero
      rw [found] at zero
      exact absurd zero ((whole?_eq_some.mp part).sub_ne_zero held.1 bits sign')

theorem parts_add_zero (value : Float) :
    parts (value + 0.0) =
      match parts value with
      | .zero _ => .zero .positive
      | other => other := by
  change stored (UnpackedFloat.add Format.binary64 (parts value) (.zero .positive)) = _
  have held := isStored_parts value
  rw [add_zero_eq]
  cases found : parts value with
  | zero sign => exact stored_eq (show IsStored (.zero .positive) from trivial)
  | _ =>
    rw [found] at held
    exact stored_eq held

theorem whole?_truncate_add_zero (value : Float) : whole? (truncate (value + 0.0)) = whole? (truncate value) := by
  rw [whole?_truncate, whole?_truncate, parts_add_zero]
  cases parts value <;> rfl

theorem clampedInt_of_whole {low high : Int} (whole : whole? value = some a) (least : low ≤ a) (most : a ≤ high) :
    clampedInt low high value = a := by
  have clamped : max low (min high a) = a := by omega
  unfold clampedInt
  rcases parts_of_whole whole with ⟨sign, found, rfl⟩ | ⟨sign, mantissa, exponent, positive, n, found, _, amounts, rfl⟩
  · rw [found]
    exact clamped
  · rw [found]
    change max low (min high (sign.apply (integralPart mantissa exponent))) = _
    rw [(amounts_iff_bits.mp amounts).2]
    exact clamped

end NumberPattern.Double
