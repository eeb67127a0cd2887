import NumberPattern.Proofs.Decimal.Shortest
import NumberPattern.Proofs.Run.Decimals

/-! The integer of a whole amount, written with decimals and without. With decimals the amount is scaled up by a
power of ten and back: the digits are its own when that loses nothing of it. Without decimals the text is the
shortest one, which has its digits unless a rounder number stands for the same double. -/

namespace NumberPattern
open Double (whole? Fits)

namespace Amount

variable {places : Nat} {value : Float} {rounding : Float → Float} {a : Int}

/-- Whether the integral part survives the scaling that makes room for so many decimals. -/
def survives (places : Nat) (value : Float) : Bool :=
  Double.truncate (value * Double.power 10.0 places / Double.power 10.0 places) == value

theorem whole?_power (few : places ≤ maxPlaces) :
    ∃ b, whole? (Double.power 10.0 places) = some b ∧ b ≠ 0 := by
  have all : ∀ places < maxPlaces + 1, ∃ b ∈ whole? (Double.power 10.0 places), b ≠ 0 := by
    decide +kernel
  exact all places (Nat.lt_succ_of_le few)

/-- The first powers of ten are exact. -/
theorem whole?_power_of_le (few : places ≤ 22) : whole? (Double.power 10.0 places) = some (10 ^ places) := by
  have all : ∀ places < 23, whole? (Double.power 10.0 places) = some (10 ^ places) := by decide +kernel
  exact all places (Nat.lt_succ_of_le few)

/-- A whole number stays one when it is scaled, so that nothing is rounded away. -/
theorem roundAt_of_whole (known : rounding ∈ Double.roundings) (few : places ≤ maxPlaces)
    (whole : whole? value = some a) (finite : (value * Double.power 10.0 places).isFinite = true) :
    roundAt rounding places value = value * Double.power 10.0 places / Double.power 10.0 places := by
  obtain ⟨b, power, _⟩ := whole?_power few
  obtain ⟨c, scaled, _⟩ := Double.whole?_mul whole power finite
  simp only [roundAt, finite, if_true, Double.rounding_of_whole known scaled]

/-- Only the powers of ten that are exact leave room for a number before them. -/
theorem five_pow_lt_of_fits {n : Nat} (some_ : 0 < n) (fits : Fits (n * 10 ^ places)) : 5 ^ places < 2 ^ 53 := by
  have parts : n * 10 ^ places = n * 2 ^ places * 5 ^ places := by
    rw [Nat.mul_assoc, ← Nat.mul_pow]
  have odd : Nat.Coprime (2 ^ ((n * 10 ^ places).log2 - 52)) (5 ^ places) := Nat.Coprime.pow _ _ (by decide)
  have divides : 2 ^ ((n * 10 ^ places).log2 - 52) ∣ n * 2 ^ places := by
    rw [Fits] at fits
    conv_rhs at fits => rw [parts]
    exact odd.dvd_of_dvd_mul_right fits
  apply Nat.lt_of_mul_lt_mul_left (a := n * 2 ^ places)
  calc
    n * 2 ^ places * 5 ^ places = n * 10 ^ places := parts.symm
    _ < 2 ^ ((n * 10 ^ places).log2 + 1) := Nat.lt_log2_self
    _ ≤ 2 ^ ((n * 10 ^ places).log2 - 52 + 53) := Nat.pow_le_pow_right (by decide) (by omega)
    _ = 2 ^ ((n * 10 ^ places).log2 - 52) * 2 ^ 53 := Nat.pow_add ..
    _ ≤ n * 2 ^ places * 2 ^ 53 := Nat.mul_le_mul_right _ (Nat.le_of_dvd (by positivity) divides)

/-- An amount whose product with the power of ten is a double comes back from the scaling as it was. -/
theorem whole?_scaled (few : places ≤ maxPlaces) (whole : whole? value = some a)
    (finite : (value * Double.power 10.0 places).isFinite = true) (fits : Fits (a.natAbs * 10 ^ places)) :
    whole? (value * Double.power 10.0 places / Double.power 10.0 places) = some a := by
  suffices exact_ : ∃ b, whole? (Double.power 10.0 places) = some b ∧ b ≠ 0 ∧ Fits (a * b).natAbs by
    obtain ⟨b, power, some_, within⟩ := exact_
    obtain ⟨c, scaled, same⟩ := Double.whole?_mul whole power finite
    obtain rfl := same within
    exact Double.whole?_div scaled power some_ whole
  by_cases zero : a = 0
  · obtain ⟨b, power, some_⟩ := whole?_power few
    refine ⟨b, power, some_, ?_⟩
    rw [zero, Int.zero_mul]
    exact Double.fits_of_le (Nat.zero_le _)
  · have few : places ≤ 22 := by
      by_contra many
      have large : 5 ^ 23 ≤ 5 ^ places := Nat.pow_le_pow_right (by decide) (by omega)
      have less := five_pow_lt_of_fits (Int.natAbs_pos.mpr zero) fits
      omega
    refine ⟨10 ^ places, whole?_power_of_le few, by positivity, ?_⟩
    rw [Int.natAbs_mul, Int.natAbs_pow]
    exact fits

theorem survives_iff (whole : whole? value = some a) : survives places value = true ↔
    whole? (Double.truncate (value * Double.power 10.0 places / Double.power 10.0 places)) = some a :=
  Double.beq_iff_whole whole

theorem survives_of_fits (few : places ≤ maxPlaces) (whole : whole? value = some a)
    (finite : (value * Double.power 10.0 places).isFinite = true) (fits : Fits (a.natAbs * 10 ^ places)) :
    survives places value = true := by
  have back := whole?_scaled few whole finite fits
  rw [survives_iff whole, Double.truncate, Double.roundBy_of_whole _ back]
  exact back

/-- The digits before the point are those of the amount just when it survives the scaling. -/
theorem split_whole_iff (known : rounding ∈ Double.roundings) (few : places ≤ maxPlaces)
    (whole : whole? value = some a) (finite : (value * Double.power 10.0 places).isFinite = true) :
    (split rounding places value).whole = toString a ↔ survives places value = true := by
  have cut : split rounding places value =
      Decimal.fixed places (value * Double.power 10.0 places / Double.power 10.0 places + 0.0) := by
    rw [split, Nat.min_eq_left few, roundAt_of_whole known few whole finite]
  rw [cut]
  by_cases small : a.natAbs * 5 ^ places ≤ 2 ^ 53
  · have fits : Fits (a.natAbs * 10 ^ places) := by
      have parts : a.natAbs * 10 ^ places = a.natAbs * 5 ^ places * 2 ^ places := by
        rw [Nat.mul_assoc, ← Nat.mul_pow]
      rw [parts]
      exact (Double.fits_of_le small).mul_pow places
    have back := whole?_scaled few whole finite fits
    exact iff_of_true (Decimal.fixed_of_whole back places) (survives_of_fits few whole finite fits)
  · have some_ : a ≠ 0 := by
      rintro rfl
      simp at small
    rw [Decimal.fixed_whole_iff some_ (Nat.lt_of_not_le small), Double.whole?_truncate_add_zero, survives_iff whole]

end Amount

/-- The texts that the integer step writes for the whole number `a`, with so many decimals in the pattern and
with none. -/
structure WholeAmount (rounding : Float → Float) (value : Float) (places : Nat) (a : Int) : Prop where
  placed : Amount.survives places value = true → ∀ setting : Setting, setting.rounding = rounding →
    setting.precision.places = some places → Amount.integerText setting value = toString a
  unplaced : ∀ setting : Setting, setting.rounding = rounding → setting.precision.places = none →
    Amount.integerText setting value = Decimal.shortest (value + 0.0)
  agree : Amount.survives places value = true → ∀ setting setting' : Setting, setting.rounding = rounding →
    setting'.rounding = rounding → setting.precision.places = some places → setting'.precision.places = none →
    (Amount.integerText setting value = Amount.integerText setting' value ↔ Decimal.Roundest value a.natAbs)
  /-- The scaling loses nothing where the exact product is a double. -/
  survives : Fits (a.natAbs * 10 ^ places) → Amount.survives places value = true
  few : ∀ count zeros, a.natAbs = count * 10 ^ zeros → count < 2 ^ 53 → Decimal.Roundest value a.natAbs
  small : a.natAbs < 2 ^ 54 + 8 → Decimal.Roundest value a.natAbs

/-- A whole amount that survives the scaling shows its digits with decimals, and the shortest text of the amount
without: the same integer, unless a rounder one stands for the same double. -/
theorem whole_amounts (value : Float) (whole : (Double.remainder value == 0.0) = true) (places : Nat)
    (positive : 0 < places) (few : places ≤ Amount.maxPlaces)
    (finite : (value * Double.power 10.0 places).isFinite = true) (rounding : Float → Float)
    (known : rounding ∈ Double.roundings) :
    ∃ a, whole? value = some a ∧ WholeAmount rounding value places a := by
  obtain ⟨a, whole⟩ := Double.whole?_of_remainder whole
  have placed (kept : Amount.survives places value = true) (setting : Setting)
      (same : setting.rounding = rounding) (precise : setting.precision.places = some places) :
      Amount.integerText setting value = toString a := by
    rw [Amount.integerText_eq precise positive, same]
    exact (Amount.split_whole_iff known few whole finite).mpr kept
  have unplaced (setting : Setting) (same : setting.rounding = rounding)
      (plain : setting.precision.places = none) :
      Amount.integerText setting value = Decimal.shortest (value + 0.0) := by
    rw [Amount.integerText, plain, same, Double.rounding_of_whole known whole]
  refine ⟨a, whole, placed, unplaced, ?_, Amount.survives_of_fits few whole finite,
    fun count zeros => Decimal.roundest_of_few whole, Decimal.roundest_of_small whole⟩
  intro kept setting setting' same same' precise plain
  rw [placed kept setting same precise, unplaced setting' same' plain, eq_comm]
  exact Decimal.shortest_eq_iff whole

/-- An amount of one digit before zeros is shown alike, far beyond the 53 bits of a mantissa. -/
theorem whole_amounts_round : WholeAmount roundHalfUp (-1e20) 2 (-100000000000000000000) ∧
    Amount.integerText ⟨⟨roundHalfUp, {}, ⟨some 2, none⟩⟩, {}⟩ (-1e20) =
      Amount.integerText ⟨⟨roundHalfUp, {}, {}⟩, {}⟩ (-1e20) := by
  have known : roundHalfUp ∈ Double.roundings := by simp [Double.roundings]
  obtain ⟨a, whole, amount⟩ := whole_amounts (-1e20) (by decide +kernel) 2 (by decide) (by decide)
    (by decide +kernel) roundHalfUp known
  have exact_ : whole? (-1e20) = some (-100000000000000000000) := by decide +kernel
  obtain rfl : a = -100000000000000000000 := Option.some.inj (whole.symm.trans exact_)
  have fits : Fits (100000000000000000000 * 10 ^ 2) := by
    unfold Fits
    decide
  refine ⟨amount, (amount.agree (amount.survives fits) _ _ rfl rfl rfl rfl).mpr ?_⟩
  exact amount.few 1 20 (by decide) (by decide)

/-- Nothing is lost when 2 ^ 60 is scaled for one decimal, and still its shortest text is that of a rounder
number. -/
theorem whole_amounts_differ : ¬ ∀ (value : Float) (places : Nat) (rounding : Float → Float)
    (setting setting' : Setting), value.isFinite = true → (Double.remainder value == 0.0) = true →
    0 < places → places ≤ Amount.maxPlaces → (value * Double.power 10.0 places).isFinite = true →
    rounding ∈ Double.roundings → setting.rounding = rounding → setting'.rounding = rounding →
    setting.precision.places = some places → setting'.precision.places = none →
    Amount.integerText setting value = Amount.integerText setting' value := by
  intro agree
  have known : roundHalfUp ∈ Double.roundings := by simp [Double.roundings]
  have same := agree 1152921504606846976.0 1 roundHalfUp ⟨⟨roundHalfUp, {}, ⟨some 1, none⟩⟩, {}⟩
    ⟨⟨roundHalfUp, {}, {}⟩, {}⟩ (by decide +kernel) (by decide +kernel) (by decide) (by decide)
    (by decide +kernel) known rfl rfl rfl rfl
  revert same
  decide +kernel

end NumberPattern
