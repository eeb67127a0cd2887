import Mathlib.Tactic.Positivity
import Mathlib.Tactic.Ring
import NumberPattern.Proofs.Double.Canonical

/-! How the result of an operation is rounded to a double. Bits behind the 53rd are dropped; when they are
zeros the result is exact, and a whole number is rounded to a whole number. -/

namespace NumberPattern.Double
open Float.Model (UnpackedFloat Format)
open Float.Model.UnpackedFloat (Sign ExtendedMantissa)

variable {sign : Sign} {mantissa count : Nat} {exponent : Int} {n : Nat}

/-- `mantissa * 2 ^ exponent` is the natural number. -/
def Amounts (mantissa : Nat) (exponent : Int) (n : Nat) : Prop :=
  mantissa * 2 ^ exponent.toNat = n * 2 ^ (-exponent).toNat

theorem amounts_iff {up down : Nat} (shift : (up : Int) - down = exponent) :
    Amounts mantissa exponent n ↔ mantissa * 2 ^ up = n * 2 ^ down := by
  obtain ⟨extra, rise⟩ : ∃ extra, up = exponent.toNat + extra := ⟨up - exponent.toNat, by omega⟩
  have fall : down = (-exponent).toNat + extra := by omega
  have positive : 0 < 2 ^ extra := by positivity
  rw [rise, fall, Nat.pow_add, Nat.pow_add, ← Nat.mul_assoc, ← Nat.mul_assoc, Nat.mul_left_inj positive.ne']
  rfl

theorem amounts_iff_bits :
    Amounts mantissa exponent n ↔ fractionBits mantissa exponent = 0 ∧ integralPart mantissa exponent = n := by
  have unit : 0 < 2 ^ (-exponent).toNat := by positivity
  rcases Int.le_total 0 exponent with large | small
  · have none : (-exponent).toNat = 0 := by omega
    simp [Amounts, fractionBits, integralPart, none, Nat.mod_one]
  · have none : exponent.toNat = 0 := by omega
    simp only [Amounts, fractionBits, integralPart, none, Nat.pow_zero, Nat.mul_one, Nat.pow_eq]
    constructor
    · intro same
      rw [same]
      exact ⟨Nat.mul_mod_left _ _, Nat.mul_div_cancel _ unit⟩
    · rintro ⟨divides, rfl⟩
      exact (Nat.div_mul_cancel (Nat.dvd_of_mod_eq_zero divides)).symm

theorem integralPart_of_neg (small : exponent < 0) :
    integralPart mantissa exponent = mantissa / 2 ^ (-exponent).toNat := by
  have none : exponent.toNat = 0 := by omega
  rw [integralPart, none]
  exact congrArg (· / _) (Nat.mul_one _)

theorem log2_mul_pow (positive : 0 < mantissa) (count : Nat) : (mantissa * 2 ^ count).log2 = mantissa.log2 + count := by
  induction count with
  | zero => rw [Nat.pow_zero, Nat.mul_one, Nat.add_zero]
  | succ count ih =>
    have twice : mantissa * 2 ^ (count + 1) = 2 * (mantissa * 2 ^ count) := by ring
    have some_ : mantissa * 2 ^ count ≠ 0 := by positivity
    rw [twice, Nat.log2_two_mul some_, ih]
    rfl

theorem Amounts.pos (amounts : Amounts mantissa exponent n) (positive : 0 < mantissa) : 0 < n := by
  rcases Nat.eq_zero_or_pos n with rfl | some_
  · rw [Amounts, Nat.zero_mul] at amounts
    have scaled : 0 < mantissa * 2 ^ exponent.toNat := by positivity
    omega
  · exact some_

theorem Amounts.log2_eq (amounts : Amounts mantissa exponent n) (positive : 0 < mantissa) :
    (n.log2 : Int) = mantissa.log2 + exponent := by
  have logs := congrArg Nat.log2 amounts
  rw [log2_mul_pow positive, log2_mul_pow (amounts.pos positive)] at logs
  omega

/-- The residual bits aside, shifting divides. -/
theorem mantissa_shifted (extended : ExtendedMantissa) (count : Nat) :
    (count.repeat ExtendedMantissa.shiftRightOne extended).mantissa = extended.mantissa / 2 ^ count := by
  induction count with
  | zero => rw [Nat.repeat, Nat.pow_zero, Nat.div_one]
  | succ count ih =>
    rw [Nat.repeat, ExtendedMantissa.shiftRightOne, ih, Nat.div_div_eq_div_mul, Nat.pow_succ]

theorem shifted_exact (divides : 2 ^ count ∣ mantissa) :
    count.repeat ExtendedMantissa.shiftRightOne ⟨mantissa, false, false⟩ =
      ⟨mantissa / 2 ^ count, false, false⟩ := by
  induction count with
  | zero => rw [Nat.repeat, Nat.pow_zero, Nat.div_one]
  | succ count ih =>
    obtain ⟨rest, rfl⟩ := divides
    have split : 2 ^ (count + 1) * rest = 2 ^ count * (2 * rest) := by ring
    have positive : 0 < 2 ^ count := by positivity
    rw [Nat.mul_div_cancel_left _ (by positivity), split]
    rw [split] at ih
    rw [Nat.repeat, ih (Nat.dvd_mul_right ..), Nat.mul_div_cancel_left _ positive]
    simp [ExtendedMantissa.shiftRightOne]

theorem roundedMantissa_cases (extended : ExtendedMantissa) :
    extended.roundedMantissa = extended.mantissa ∨ extended.roundedMantissa = extended.mantissa + 1 := by
  obtain ⟨mantissa, roundBit, stickyBit⟩ := extended
  cases roundBit with
  | false => cases stickyBit <;> exact Or.inl rfl
  | true =>
    cases stickyBit with
    | false =>
      change mantissa + mantissa % 2 = mantissa ∨ mantissa + mantissa % 2 = mantissa + 1
      omega
    | true => exact Or.inr rfl

theorem shiftToTargetExponent_eq (mantissa : Nat) (exponent : Int) (count : Nat)
    (shift : (max ((mantissa.log2 : Int) + 1 + exponent - 53) (-1074) - exponent).toNat = count) :
    UnpackedFloat.shiftToTargetExponent Format.binary64 mantissa exponent .exact =
      (count.repeat ExtendedMantissa.shiftRightOne ⟨mantissa, false, false⟩, exponent + count) := by
  rw [← shift]
  rfl

/-- The mantissa without the bits behind the 53rd, rounded. -/
def rounded (mantissa : Nat) : Nat :=
  ((mantissa.log2 - 52).repeat ExtendedMantissa.shiftRightOne ⟨mantissa, false, false⟩).roundedMantissa

theorem rounded_exact (divides : 2 ^ (mantissa.log2 - 52) ∣ mantissa) :
    rounded mantissa = mantissa / 2 ^ (mantissa.log2 - 52) := by
  rw [rounded, shifted_exact divides]
  rfl

theorem rounded_bounds (long : 2 ^ 52 ≤ mantissa) : 2 ^ 52 ≤ rounded mantissa ∧ rounded mantissa ≤ 2 ^ 53 := by
  have some_ : mantissa ≠ 0 := by omega
  have bits := (Nat.le_log2 some_).mpr long
  have low : 2 ^ 52 ≤ mantissa / 2 ^ (mantissa.log2 - 52) := by
    rw [Nat.le_div_iff_mul_le (by positivity), ← Nat.pow_add, Nat.add_sub_cancel' bits]
    exact Nat.log2_self_le some_
  have high : mantissa / 2 ^ (mantissa.log2 - 52) < 2 ^ 53 := by
    have width : 53 + (mantissa.log2 - 52) = mantissa.log2 + 1 := by omega
    rw [Nat.div_lt_iff_lt_mul (by positivity), ← Nat.pow_add, width]
    exact Nat.lt_log2_self
  have step := roundedMantissa_cases
    ((mantissa.log2 - 52).repeat ExtendedMantissa.shiftRightOne ⟨mantissa, false, false⟩)
  rw [mantissa_shifted] at step
  change rounded mantissa = _ ∨ rounded mantissa = _ at step
  dsimp only at step
  omega

/-- What the two bits behind a mantissa tell of what was shifted out of it, counted in a unit of the mantissa. -/
structure Cut (extended : ExtendedMantissa) (rest unit : Nat) : Prop where
  half : extended.roundBit = decide (unit ≤ 2 * rest)
  some_ : (extended.roundBit || extended.stickyBit) = decide (rest ≠ 0)
  above : extended.roundBit = true → extended.stickyBit = decide (unit < 2 * rest)

theorem cut_shifted (mantissa count : Nat) :
    Cut (count.repeat ExtendedMantissa.shiftRightOne ⟨mantissa, false, false⟩) (mantissa % 2 ^ count) (2 ^ count) := by
  induction count with
  | zero => constructor <;> simp [Nat.repeat, Nat.mod_one]
  | succ count ih =>
    have shifted := mantissa_shifted ⟨mantissa, false, false⟩ count
    have less : mantissa % 2 ^ count < 2 ^ count := Nat.mod_lt _ (by positivity)
    have rest : mantissa % 2 ^ (count + 1) = mantissa % 2 ^ count + 2 ^ count * (mantissa / 2 ^ count % 2) := by
      rw [Nat.pow_succ, Nat.mod_mul]
    rw [Nat.repeat, ExtendedMantissa.shiftRightOne, shifted, rest, Nat.pow_succ]
    rcases Nat.mod_two_eq_zero_or_one (mantissa / 2 ^ count) with even | odd
    · rw [even, Nat.mul_zero, Nat.add_zero]
      refine ⟨(decide_eq_false ?_).symm, ih.some_, nofun⟩
      omega
    · rw [odd, Nat.mul_one]
      refine ⟨(decide_eq_true ?_).symm, (decide_eq_true ?_).symm, fun _ => ?_⟩
      · omega
      · omega
      · dsimp only
        rw [ih.some_, decide_eq_decide]
        omega

/-- The rounded mantissa is within half a unit, and it is even when the half is reached. -/
theorem rounded_near (mantissa : Nat) {unit : Nat} (whole : unit = 2 ^ (mantissa.log2 - 52)) :
    2 * mantissa ≤ 2 * (rounded mantissa * unit) + unit ∧ 2 * (rounded mantissa * unit) ≤ 2 * mantissa + unit ∧
      (rounded mantissa % 2 = 1 →
        2 * mantissa < 2 * (rounded mantissa * unit) + unit ∧ 2 * (rounded mantissa * unit) < 2 * mantissa + unit) := by
  have cut := cut_shifted mantissa (mantissa.log2 - 52)
  have shifted := mantissa_shifted ⟨mantissa, false, false⟩ (mantissa.log2 - 52)
  have parts : mantissa / unit * unit + mantissa % unit = mantissa := Nat.div_add_mod' mantissa unit
  have less : mantissa % unit < unit := Nat.mod_lt _ (whole ▸ by positivity)
  rw [← whole] at cut shifted
  unfold rounded
  generalize (mantissa.log2 - 52).repeat ExtendedMantissa.shiftRightOne ⟨mantissa, false, false⟩ = extended at *
  obtain ⟨kept, roundBit, stickyBit⟩ := extended
  obtain ⟨half, some_, above⟩ := cut
  dsimp only at half some_ above shifted
  subst kept
  have next : (mantissa / unit + 1) * unit = mantissa / unit * unit + unit := Nat.succ_mul ..
  cases roundBit with
  | false =>
    have low := of_decide_eq_false half.symm
    have down : ExtendedMantissa.roundedMantissa ⟨mantissa / unit, false, stickyBit⟩ = mantissa / unit := by
      cases stickyBit <;> rfl
    rw [down]
    omega
  | true =>
    have high := of_decide_eq_true half.symm
    cases stickyBit with
    | false =>
      have tie := of_decide_eq_false (above rfl).symm
      have toEven : ExtendedMantissa.roundedMantissa ⟨mantissa / unit, true, false⟩ =
          mantissa / unit + mantissa / unit % 2 := rfl
      rw [toEven]
      rcases Nat.mod_two_eq_zero_or_one (mantissa / unit) with even | odd
      · rw [even, Nat.add_zero]
        omega
      · rw [odd, next]
        omega
    | true =>
      have more := of_decide_eq_true (above rfl).symm
      have up : ExtendedMantissa.roundedMantissa ⟨mantissa / unit, true, true⟩ = mantissa / unit + 1 := rfl
      rw [up, next]
      omega

/-- The result is shifted, rounded, and shifted once more. -/
theorem roundWithAccuracy_of_shifts {kept again : ExtendedMantissa} {reached last : Int}
    (first : UnpackedFloat.shiftToTargetExponent Format.binary64 mantissa exponent .exact = (kept, reached))
    (second : UnpackedFloat.shiftToTargetExponent Format.binary64 kept.roundedMantissa reached .exact =
      (again, last))
    (positive : 0 < again.mantissa) :
    UnpackedFloat.roundWithAccuracy Format.binary64 sign mantissa exponent .exact =
      .finite sign again.mantissa last positive := by
  unfold UnpackedFloat.roundWithAccuracy
  rw [first]
  dsimp only
  rw [second]
  exact dif_neg positive.ne'

/-- A mantissa of at least 53 bits is cut to 53 and rounded; rounding up may take one bit more. -/
theorem roundWithAccuracy_long (sign : Sign) (long : 2 ^ 52 ≤ mantissa)
    (least : -1022 ≤ (mantissa.log2 : Int) + exponent) :
    ∃ positive positive', UnpackedFloat.roundWithAccuracy Format.binary64 sign mantissa exponent .exact =
      if rounded mantissa = 2 ^ 53 then .finite sign (2 ^ 52) (mantissa.log2 + exponent - 51) positive
      else .finite sign (rounded mantissa) (mantissa.log2 + exponent - 52) positive' := by
  have bits := (Nat.le_log2 (by omega)).mpr long
  obtain ⟨low, high⟩ := rounded_bounds long
  have reached : exponent + ((mantissa.log2 - 52 : Nat) : Int) = mantissa.log2 + exponent - 52 := by omega
  have first := shiftToTargetExponent_eq mantissa exponent (mantissa.log2 - 52) (by omega)
  rw [reached] at first
  refine ⟨by decide, by omega, ?_⟩
  by_cases carried : rounded mantissa = 2 ^ 53
  · have width : (rounded mantissa).log2 = 53 := by rw [carried]; exact Nat.log2_two_pow
    have second := shiftToTargetExponent_eq (rounded mantissa) (mantissa.log2 + exponent - 52) 1 (by omega)
    rw [if_pos carried, roundWithAccuracy_of_shifts first second (by rw [mantissa_shifted, carried]; decide)]
    apply finite_eq
    · rw [mantissa_shifted, carried]
      decide
    · omega
  · have width : (rounded mantissa).log2 = 52 := (Nat.log2_eq_iff (by omega)).mpr ⟨low, by omega⟩
    have second := shiftToTargetExponent_eq (rounded mantissa) (mantissa.log2 + exponent - 52) 0 (by omega)
    have some_ : 0 < rounded mantissa := by omega
    rw [if_neg carried, roundWithAccuracy_of_shifts first second some_]
    exact finite_eq rfl (by omega)

theorem canonical_roundWithAccuracy (sign : Sign) (positive : 0 < mantissa) (least : -1074 ≤ exponent)
    (long : 2 ^ 52 ≤ mantissa ∨ exponent = -1074) :
    ∃ mantissa' exponent' positive,
      UnpackedFloat.roundWithAccuracy Format.binary64 sign mantissa exponent .exact =
        .finite sign mantissa' exponent' positive ∧ Canonical mantissa' exponent' := by
  by_cases full : 2 ^ 52 ≤ mantissa
  · have bits := (Nat.le_log2 (by omega)).mpr full
    obtain ⟨low, high⟩ := rounded_bounds full
    obtain ⟨_, _, result⟩ := roundWithAccuracy_long sign full (show -1022 ≤ (mantissa.log2 : Int) + exponent by omega)
    rw [result]
    by_cases carried : rounded mantissa = 2 ^ 53
    · rw [if_pos carried]
      exact ⟨_, _, _, rfl, by decide, by omega, Or.inl (by decide)⟩
    · rw [if_neg carried]
      exact ⟨_, _, _, rfl, by omega, by omega, Or.inl low⟩
  · -- at the least exponent nothing is shifted out
    obtain rfl : exponent = -1074 := long.resolve_left full
    have bits : mantissa.log2 < 52 := (Nat.log2_lt (by omega)).mpr (Nat.lt_of_not_le full)
    have stays := shiftToTargetExponent_eq mantissa (-1074) 0 (by omega)
    exact ⟨mantissa, -1074, positive, roundWithAccuracy_of_shifts stays stays positive, by omega, by omega,
      Or.inr rfl⟩

/-- Rounding first lowers the exponent until the mantissa has 53 bits, or the exponent is the least. -/
theorem round_eq (sign : Sign) (mantissa : Nat) (exponent : Int) {down : Nat}
    (shift : down = (exponent - max ((mantissa.log2 : Int) + 1 + exponent - 53) (-1074)).toNat) :
    UnpackedFloat.round Format.binary64 sign mantissa exponent =
      UnpackedFloat.roundWithAccuracy Format.binary64 sign (mantissa * 2 ^ down) (exponent - down) .exact := by
  rw [shift, ← Nat.shiftLeft_eq]
  rfl

theorem le_mul_pow (positive : 0 < mantissa) (bits : 52 ≤ mantissa.log2 + count) : 2 ^ 52 ≤ mantissa * 2 ^ count := by
  rw [← log2_mul_pow positive] at bits
  exact (Nat.le_log2 (by positivity)).mp bits

/-- A number that is not zero is not rounded to zero. -/
theorem canonical_round (sign : Sign) (positive : 0 < mantissa) (least : -1074 ≤ exponent) :
    ∃ mantissa' exponent' positive,
      UnpackedFloat.round Format.binary64 sign mantissa exponent = .finite sign mantissa' exponent' positive ∧
        Canonical mantissa' exponent' := by
  rw [round_eq sign mantissa exponent rfl]
  apply canonical_roundWithAccuracy sign (by positivity) (by omega)
  by_cases lower : mantissa.log2 + exponent - 52 ≤ -1074
  · exact Or.inr (by omega)
  · exact Or.inl (le_mul_pow positive (by omega))

/-- A whole number of at most 53 significant bits. -/
def Fits (n : Nat) : Prop := 2 ^ (n.log2 - 52) ∣ n

theorem fits_of_le {n : Nat} (few : n ≤ 2 ^ 53) : Fits n := by
  unfold Fits
  rcases Nat.lt_or_eq_of_le few with less | rfl
  · have bits : n.log2 - 52 = 0 := by
      rcases Nat.eq_zero_or_pos n with rfl | positive
      · rfl
      · have log := (Nat.log2_lt (by omega)).mpr less
        omega
    rw [bits, Nat.pow_zero]
    exact Nat.one_dvd n
  · rw [Nat.log2_two_pow]
    decide

theorem Fits.mul_pow {n : Nat} (fits : Fits n) (count : Nat) : Fits (n * 2 ^ count) := by
  rcases Nat.eq_zero_or_pos n with rfl | positive
  · rw [Nat.zero_mul]
    exact Nat.dvd_zero _
  · rw [Fits, log2_mul_pow positive]
    have enough : n.log2 + count - 52 ≤ n.log2 - 52 + count := by omega
    apply (Nat.pow_dvd_pow 2 enough).trans
    rw [Nat.pow_add]
    exact Nat.mul_dvd_mul_right fits _

/-- Rounding drops nothing but zeros from the mantissa of a whole number that fits. -/
theorem Amounts.divides (amounts : Amounts mantissa exponent n) (long : 2 ^ 52 ≤ mantissa) (fits : Fits n) :
    2 ^ (mantissa.log2 - 52) ∣ mantissa := by
  have bits := (Nat.le_log2 (by omega)).mpr long
  have logs := amounts.log2_eq (by omega)
  have unit : 0 < 2 ^ exponent.toNat := by positivity
  have enough : mantissa.log2 - 52 + exponent.toNat ≤ n.log2 - 52 + (-exponent).toNat := by omega
  apply Nat.dvd_of_mul_dvd_mul_right unit
  rw [amounts, ← Nat.pow_add]
  apply (Nat.pow_dvd_pow 2 enough).trans
  rw [Nat.pow_add]
  exact Nat.mul_dvd_mul_right fits _

theorem amounts_of_nonneg (large : 0 ≤ exponent) : Amounts mantissa exponent (mantissa * 2 ^ exponent.toNat) := by
  have none : (-exponent).toNat = 0 := by omega
  rw [Amounts, none, Nat.pow_zero, Nat.mul_one]

theorem amounts_shifted (amounts : Amounts mantissa exponent n) (divides : 2 ^ count ∣ mantissa) :
    Amounts (mantissa / 2 ^ count) (exponent + count) n := by
  obtain ⟨rest, rfl⟩ := divides
  have unit : 0 < 2 ^ count := by positivity
  rw [Nat.mul_div_cancel_left _ unit]
  have shift : ((exponent.toNat + count : Nat) : Int) - (-exponent).toNat = exponent + count := by omega
  rw [amounts_iff shift, ← amounts]
  ring

/-- A whole number is rounded to a whole number, and to itself when it fits. -/
theorem roundWithAccuracy_whole (sign : Sign) (amounts : Amounts mantissa exponent n) (long : 2 ^ 52 ≤ mantissa) :
    ∃ mantissa' exponent' positive m,
      UnpackedFloat.roundWithAccuracy Format.binary64 sign mantissa exponent .exact =
        .finite sign mantissa' exponent' positive ∧
      Canonical mantissa' exponent' ∧ Amounts mantissa' exponent' m ∧ (Fits n → m = n) := by
  have bits := (Nat.le_log2 (by omega)).mpr long
  have logs := amounts.log2_eq (by omega)
  obtain ⟨low, high⟩ := rounded_bounds long
  obtain ⟨_, _, result⟩ := roundWithAccuracy_long sign long (show -1022 ≤ (mantissa.log2 : Int) + exponent by omega)
  rw [result]
  -- what the rounded mantissa amounts to, before a carry is shifted out of it
  obtain ⟨m, whole, same⟩ : ∃ m, Amounts (rounded mantissa) (mantissa.log2 + exponent - 52) m ∧ (Fits n → m = n) := by
    have exact_ (divides : 2 ^ (mantissa.log2 - 52) ∣ mantissa) :
        Amounts (rounded mantissa) (mantissa.log2 + exponent - 52) n := by
      have reached : (mantissa.log2 : Int) + exponent - 52 = exponent + (mantissa.log2 - 52 : Nat) := by omega
      rw [rounded_exact divides, reached]
      exact amounts_shifted amounts divides
    by_cases fits : Fits n
    · exact ⟨n, exact_ (amounts.divides long fits), fun _ => rfl⟩
    · have large : 0 ≤ (mantissa.log2 : Int) + exponent - 52 := by
        by_contra small
        apply fits
        have none : n.log2 - 52 = 0 := by omega
        rw [Fits, none, Nat.pow_zero]
        exact Nat.one_dvd n
      exact ⟨_, amounts_of_nonneg large, fun fits' => absurd fits' fits⟩
  by_cases carried : rounded mantissa = 2 ^ 53
  · rw [if_pos carried]
    refine ⟨_, _, _, m, rfl, ⟨by decide, by omega, Or.inl (by decide)⟩, ?_, same⟩
    have halved := amounts_shifted whole (show 2 ^ 1 ∣ rounded mantissa by rw [carried]; decide)
    have quotient : rounded mantissa / 2 ^ 1 = 2 ^ 52 := by rw [carried]; decide
    have next : (mantissa.log2 : Int) + exponent - 52 + (1 : Nat) = mantissa.log2 + exponent - 51 := by omega
    rw [quotient, next] at halved
    exact halved
  · rw [if_neg carried]
    exact ⟨_, _, _, m, rfl, ⟨by omega, by omega, Or.inl low⟩, whole, same⟩

theorem amounts_lowered_iff (count : Nat) :
    Amounts (mantissa * 2 ^ count) (exponent - count) n ↔ Amounts mantissa exponent n := by
  have unit : 0 < 2 ^ count := by positivity
  have shift : (exponent.toNat : Int) - ((-exponent).toNat + count : Nat) = exponent - count := by omega
  rw [amounts_iff shift, Nat.pow_add, ← Nat.mul_assoc, Nat.mul_right_comm, Nat.mul_left_inj unit.ne']
  rfl

theorem round_whole (sign : Sign) (amounts : Amounts mantissa exponent n) (positive : 0 < mantissa) :
    ∃ mantissa' exponent' positive m,
      UnpackedFloat.round Format.binary64 sign mantissa exponent = .finite sign mantissa' exponent' positive ∧
      Canonical mantissa' exponent' ∧ Amounts mantissa' exponent' m ∧ (Fits n → m = n) := by
  have logs := amounts.log2_eq positive
  rw [round_eq sign mantissa exponent rfl]
  exact roundWithAccuracy_whole sign ((amounts_lowered_iff _).mpr amounts) (le_mul_pow positive (by omega))

/-- A whole number is not held at the least exponent. -/
theorem Canonical.long (canonical : Canonical mantissa exponent) (amounts : Amounts mantissa exponent n)
    (positive : 0 < mantissa) : 2 ^ 52 ≤ mantissa := by
  apply canonical.full.resolve_right
  rintro rfl
  have logs := amounts.log2_eq positive
  have bits := (Nat.log2_lt (by omega)).mpr canonical.bits
  omega

theorem Canonical.exponent_eq (canonical : Canonical mantissa exponent) (amounts : Amounts mantissa exponent n)
    (positive : 0 < mantissa) : exponent = n.log2 - 52 := by
  have long := canonical.long amounts positive
  have bits := (Nat.log2_eq_iff (k := 52) (by omega)).mpr ⟨long, canonical.bits⟩
  have logs := amounts.log2_eq positive
  omega

/-- A mantissa counts nothing that does not fit. -/
theorem Canonical.fits (canonical : Canonical mantissa exponent) (amounts : Amounts mantissa exponent n)
    (positive : 0 < mantissa) : Fits n := by
  have reached := canonical.exponent_eq amounts positive
  have same : n.log2 - 52 = exponent.toNat := by omega
  rw [Fits, same]
  rcases Int.le_total 0 exponent with large | small
  · have none : (-exponent).toNat = 0 := by omega
    rw [Amounts, none, Nat.pow_zero, Nat.mul_one] at amounts
    exact ⟨mantissa, by rw [← amounts, Nat.mul_comm]⟩
  · have none : exponent.toNat = 0 := by omega
    rw [none, Nat.pow_zero]
    exact Nat.one_dvd n

theorem Amounts.mantissa_unique {mantissa' : Nat} (amounts : Amounts mantissa exponent n)
    (amounts' : Amounts mantissa' exponent n) : mantissa = mantissa' := by
  have unit : 0 < 2 ^ exponent.toNat := by positivity
  exact Nat.eq_of_mul_eq_mul_right unit (amounts.trans amounts'.symm)

theorem Amounts.mul {mantissa' m : Nat} {exponent' : Int} (amounts : Amounts mantissa exponent n)
    (amounts' : Amounts mantissa' exponent' m) :
    Amounts (mantissa * mantissa') (exponent + exponent') (n * m) := by
  have shift : ((exponent.toNat + exponent'.toNat : Nat) : Int) -
      ((-exponent).toNat + (-exponent').toNat : Nat) = exponent + exponent' := by omega
  rw [amounts_iff shift]
  calc
    mantissa * mantissa' * 2 ^ (exponent.toNat + exponent'.toNat)
    _ = (mantissa * 2 ^ exponent.toNat) * (mantissa' * 2 ^ exponent'.toNat) := by ring
    _ = (n * 2 ^ (-exponent).toNat) * (m * 2 ^ (-exponent').toNat) := by rw [amounts, amounts']
    _ = n * m * 2 ^ ((-exponent).toNat + (-exponent').toNat) := by ring

end NumberPattern.Double
