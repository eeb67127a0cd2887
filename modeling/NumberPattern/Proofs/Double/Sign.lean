import NumberPattern.Amount
import NumberPattern.Proofs.Double.Order
import NumberPattern.Rounding

/-! The signs of doubles: what keeps a value that is not below zero there, and what takes the minus sign
from a zero. -/

namespace NumberPattern.Double
open Float.Model (UnpackedFloat Format)
open Float.Model.UnpackedFloat (Sign)

/-- A minus sign belongs to the value. -/
def hasMinus : UnpackedFloat → Bool
  | .notANumber => false
  | .infinity sign | .zero sign | .finite sign _ _ _ => isNegative sign

/-- The value has a minus sign and is not zero. -/
def isBelow : UnpackedFloat → Bool
  | .notANumber | .zero _ => false
  | .infinity sign | .finite sign _ _ _ => isNegative sign

section Unpacked

variable {spec : Format} {value other : UnpackedFloat} {sign : Sign} {mantissa : Nat} {exponent : Int}

theorem eq_positive (positive : isNegative sign = false) : sign = .positive := by
  cases sign with
  | positive => rfl
  | negative => cases positive

@[simp] theorem isBelow_infinity : isBelow (.infinity sign) = isNegative sign := rfl

@[simp] theorem isBelow_finite {positive : 0 < mantissa} :
    isBelow (.finite sign mantissa exponent positive) = isNegative sign := rfl

theorem isBelow_of_hasMinus (unsigned : hasMinus value = false) : isBelow value = false := by
  cases value with
  | notANumber | zero => rfl
  | infinity | finite => exact unsigned

/-- Only a zero may have a minus sign without being below zero. -/
theorem hasMinus_of_isBelow (enough : isBelow value = false) :
    hasMinus value = false ∨ ∃ sign, value = .zero sign := by
  cases value with
  | zero sign => exact Or.inr ⟨sign, rfl⟩
  | notANumber => exact Or.inl rfl
  | infinity | finite => exact Or.inl enough

theorem compare_zero : value.compare (.zero .positive) = some .lt ↔ isBelow value = true := by
  cases value with
  | notANumber | zero => exact ⟨nofun, nofun⟩
  | infinity sign | finite sign =>
    cases sign with
    | positive => exact ⟨nofun, nofun⟩
    | negative => exact ⟨fun _ => rfl, fun _ => rfl⟩

section Branches

variable {condition : Prop} [Decidable condition] {minus : Bool}

theorem hasMinus_dite {first : condition → UnpackedFloat} {second : ¬ condition → UnpackedFloat}
    (left : ∀ holds, hasMinus (first holds) = minus) (right : ∀ fails, hasMinus (second fails) = minus) :
    hasMinus (dite condition first second) = minus := by
  split
  next holds => exact left holds
  next fails => exact right fails

theorem hasMinus_ite (left : hasMinus value = minus) (right : hasMinus other = minus) :
    hasMinus (if condition then value else other) = minus :=
  hasMinus_dite (fun _ => left) fun _ => right

end Branches

theorem hasMinus_roundWithAccuracy (sign : Sign) (mantissa : Nat) (exponent : Int)
    (accuracy : UnpackedFloat.Accuracy) :
    hasMinus (UnpackedFloat.roundWithAccuracy spec sign mantissa exponent accuracy) = isNegative sign := by
  unfold UnpackedFloat.roundWithAccuracy
  exact hasMinus_dite (fun _ => rfl) fun _ => rfl

theorem hasMinus_normalize {mantissa : Int} (enough : 0 ≤ mantissa) (exponent : Int) :
    hasMinus (UnpackedFloat.normalize spec mantissa exponent .positive) = false := by
  unfold UnpackedFloat.normalize
  split
  next less => exact absurd (Int.compare_eq_lt.mp less) (Int.not_lt.mpr enough)
  next => rfl
  next => exact hasMinus_roundWithAccuracy ..

theorem hasMinus_mul (unsigned : hasMinus value = false) (unsigned' : hasMinus other = false) :
    hasMinus (UnpackedFloat.mul spec value other) = false := by
  cases value with
  | notANumber => rfl
  | infinity sign | zero sign =>
    obtain rfl := eq_positive unsigned
    cases other with
    | notANumber => rfl
    | infinity sign' | zero sign' | finite sign' =>
      obtain rfl := eq_positive unsigned'
      rfl
  | finite sign =>
    obtain rfl := eq_positive unsigned
    cases other with
    | notANumber => rfl
    | infinity sign' | zero sign' =>
      obtain rfl := eq_positive unsigned'
      rfl
    | finite sign' =>
      obtain rfl := eq_positive unsigned'
      exact hasMinus_roundWithAccuracy ..

theorem hasMinus_div (unsigned : hasMinus value = false) (unsigned' : hasMinus other = false) :
    hasMinus (UnpackedFloat.div spec value other) = false := by
  cases value with
  | notANumber => rfl
  | infinity sign | zero sign =>
    obtain rfl := eq_positive unsigned
    cases other with
    | notANumber => rfl
    | infinity sign' | zero sign' | finite sign' =>
      obtain rfl := eq_positive unsigned'
      rfl
  | finite sign =>
    obtain rfl := eq_positive unsigned
    cases other with
    | notANumber => rfl
    | infinity sign' | zero sign' =>
      obtain rfl := eq_positive unsigned'
      rfl
    | finite sign' =>
      obtain rfl := eq_positive unsigned'
      exact hasMinus_roundWithAccuracy ..

theorem isBelow_mul (enough : isBelow value = false) (unsigned : hasMinus other = false) :
    isBelow (UnpackedFloat.mul spec value other) = false := by
  rcases hasMinus_of_isBelow enough with unsigned' | ⟨sign, rfl⟩
  · exact isBelow_of_hasMinus (hasMinus_mul unsigned' unsigned)
  · cases other <;> rfl

theorem isBelow_div (enough : isBelow value = false) (unsigned : hasMinus other = false) :
    isBelow (UnpackedFloat.div spec value other) = false := by
  rcases hasMinus_of_isBelow enough with unsigned' | ⟨sign, rfl⟩
  · exact isBelow_of_hasMinus (hasMinus_div unsigned' unsigned)
  · cases other <;> rfl

theorem hasMinus_add (unsigned : hasMinus value = false) (unsigned' : hasMinus other = false) :
    hasMinus (UnpackedFloat.add spec value other) = false := by
  cases value with
  | notANumber => rfl
  | infinity sign =>
    obtain rfl := eq_positive unsigned
    cases other with
    | infinity sign =>
      obtain rfl := eq_positive unsigned'
      rfl
    | _ => rfl
  | zero sign =>
    obtain rfl := eq_positive unsigned
    cases other with
    | zero sign =>
      obtain rfl := eq_positive unsigned'
      rfl
    | _ => exact unsigned'
  | finite sign mantissa exponent =>
    obtain rfl := eq_positive unsigned
    cases other with
    | finite sign mantissa' exponent' =>
      obtain rfl := eq_positive unsigned'
      exact hasMinus_normalize (Int.add_nonneg (Int.natCast_nonneg _) (Int.natCast_nonneg _)) _
    | infinity => exact unsigned'
    | _ => rfl

theorem isBelow_add (enough : isBelow value = false) (enough' : isBelow other = false) :
    isBelow (UnpackedFloat.add spec value other) = false := by
  rcases hasMinus_of_isBelow enough with unsigned | ⟨sign, rfl⟩
  · rcases hasMinus_of_isBelow enough' with unsigned' | ⟨sign, rfl⟩
    · exact isBelow_of_hasMinus (hasMinus_add unsigned unsigned')
    · cases value with
      | zero other => cases other <;> cases sign <;> rfl
      | _ => exact enough
  · cases other with
    | zero other => cases other <;> cases sign <;> rfl
    | _ => exact enough'

/-- The sum with a positive zero is no negative zero. -/
theorem hasMinus_add_zero (enough : isBelow value = false) :
    hasMinus (UnpackedFloat.add spec value (.zero .positive)) = false := by
  rcases hasMinus_of_isBelow enough with unsigned | ⟨sign, rfl⟩
  · exact hasMinus_add unsigned rfl
  · cases sign <;> rfl

theorem hasMinus_ofScientific (mantissa : Nat) (exponent : Int) :
    hasMinus (UnpackedFloat.ofScientific spec mantissa exponent) = false := by
  unfold UnpackedFloat.ofScientific
  refine hasMinus_dite (fun _ => rfl) fun _ => hasMinus_ite rfl (hasMinus_ite rfl (hasMinus_ite ?_ ?_))
  · exact hasMinus_mul rfl rfl
  · exact hasMinus_div rfl rfl

theorem unpackSign_packComponents (sign : Sign) (exponent : BitVec spec.exponentBits)
    (mantissa : BitVec spec.mantissaBitsWithoutImplicit) :
    Sign.ofBitVec (UnpackedFloat.unpackSign (UnpackedFloat.packComponents spec sign exponent mantissa)) =
      sign := by
  have bit : UnpackedFloat.unpackSign (UnpackedFloat.packComponents spec sign exponent mantissa) =
      sign.toBitVec := by
    ext i inside
    obtain rfl : i = 0 := by omega
    change (BitVec.cast _ (BitVec.extractLsb _ _ (sign.toBitVec ++ exponent ++ mantissa)))[0] = _
    simp [BitVec.getLsbD_append, BitVec.getElem_append]
  rw [bit]
  cases sign <;> rfl

theorem hasMinus_unpack (bits : BitVec spec.numBits)
    (positive : isNegative (.ofBitVec (UnpackedFloat.unpackSign bits)) = false) :
    hasMinus (UnpackedFloat.unpack spec bits) = false := by
  unfold UnpackedFloat.unpack
  refine hasMinus_ite (hasMinus_ite ?_ rfl) (hasMinus_ite (hasMinus_dite (fun _ => ?_) fun _ => ?_) ?_)
  all_goals exact positive

theorem hasMinus_packed (positive : isNegative sign = false) (exponent : BitVec spec.exponentBits)
    (mantissa : BitVec spec.mantissaBitsWithoutImplicit) :
    hasMinus (UnpackedFloat.unpack spec (UnpackedFloat.packComponents spec sign exponent mantissa)) = false :=
  hasMinus_unpack _ (by rw [unpackSign_packComponents, positive])

end Unpacked

/-- What is left of a value that is stored in the bits of a double. -/
def stored (value : UnpackedFloat) : UnpackedFloat := (Float.Model.pack value).unpack

theorem hasMinus_stored {value : UnpackedFloat} (unsigned : hasMinus value = false) :
    hasMinus (stored value) = false := by
  change hasMinus (UnpackedFloat.unpack _ (UnpackedFloat.pack _ value)) = false
  unfold UnpackedFloat.pack
  split
  · exact hasMinus_packed rfl _ _
  · exact hasMinus_packed unsigned _ _
  · exact hasMinus_packed unsigned _ _
  · dsimp only
    split
    · exact hasMinus_packed unsigned _ _
    split
    · exact hasMinus_packed unsigned _ _
    · exact hasMinus_packed unsigned _ _

theorem isBelow_stored {value : UnpackedFloat} (enough : isBelow value = false) :
    isBelow (stored value) = false := by
  rcases hasMinus_of_isBelow enough with unsigned | ⟨sign, rfl⟩
  · exact isBelow_of_hasMinus (hasMinus_stored unsigned)
  · cases sign <;> rfl

/-- The text of the value has no minus sign. -/
def Unsigned (value : Float) : Prop := hasMinus (parts value) = false

instance (value : Float) : Decidable (Unsigned value) := inferInstanceAs (Decidable (_ = false))

section Operations

variable {value other : Float}

theorem not_lt_zero : ¬ value < 0.0 ↔ isBelow (parts value) = false := by
  have zero : parts 0.0 = .zero .positive := rfl
  rw [lt_iff, zero, compare_zero, Bool.not_eq_true]

theorem Unsigned.not_lt_zero (unsigned : Unsigned value) : ¬ value < 0.0 :=
  Double.not_lt_zero.mpr (isBelow_of_hasMinus unsigned)

theorem Unsigned.mul (unsigned : Unsigned value) (unsigned' : Unsigned other) : Unsigned (value * other) :=
  hasMinus_stored (hasMinus_mul unsigned unsigned')

theorem Unsigned.div (unsigned : Unsigned value) (unsigned' : Unsigned other) : Unsigned (value / other) :=
  hasMinus_stored (hasMinus_div unsigned unsigned')

theorem mul_not_lt_zero (enough : ¬ value < 0.0) (unsigned : Unsigned other) : ¬ value * other < 0.0 :=
  not_lt_zero.mpr (isBelow_stored (isBelow_mul (not_lt_zero.mp enough) unsigned))

theorem div_not_lt_zero (enough : ¬ value < 0.0) (unsigned : Unsigned other) : ¬ value / other < 0.0 :=
  not_lt_zero.mpr (isBelow_stored (isBelow_div (not_lt_zero.mp enough) unsigned))

theorem add_not_lt_zero (enough : ¬ value < 0.0) (enough' : ¬ other < 0.0) : ¬ value + other < 0.0 :=
  not_lt_zero.mpr (isBelow_stored (isBelow_add (not_lt_zero.mp enough) (not_lt_zero.mp enough')))

theorem unsigned_add_zero (enough : ¬ value < 0.0) : Unsigned (value + 0.0) :=
  hasMinus_stored (hasMinus_add_zero (not_lt_zero.mp enough))

theorem unsigned_abs (value : Float) : Unsigned value.abs := by
  apply hasMinus_stored
  cases value.toModel.unpack <;> rfl

theorem unsigned_powersOfTen : ∀ power ∈ Float.exactlyRepresentablePowersOfTen, Unsigned power := by
  decide +kernel

/-- No literal has a minus sign. -/
theorem unsigned_ofScientific (mantissa : Nat) (negative : Bool) (exponent : Nat) :
    Unsigned (Float.ofScientific mantissa negative exponent) := by
  have whole : Unsigned mantissa.toUInt64.toFloat :=
    hasMinus_stored (hasMinus_normalize (Int.natCast_nonneg _) 0)
  unfold Float.ofScientific
  split
  next small =>
    have power := unsigned_powersOfTen _ (Array.getElem_mem (Nat.lt_succ_of_le small.2))
    dsimp only
    split
    · exact whole.div power
    · exact whole.mul power
  next => exact hasMinus_stored (hasMinus_ofScientific _ _)

theorem unsigned_ofNat (n : Nat) : Unsigned (Float.ofNat n) := unsigned_ofScientific n false 0

theorem unsigned_powerFrom {result square : Float} (unsigned : Unsigned result) (unsigned' : Unsigned square)
    (room exponent : Nat) : Unsigned (powerFrom room result square exponent) := by
  induction room generalizing result square exponent with
  | zero => exact unsigned
  | succ room ih =>
    have product : Unsigned (if exponent % 2 = 1 then result * square else result) := by
      split
      · exact unsigned.mul unsigned'
      · exact unsigned
    simp only [powerFrom]
    split
    · exact product
    · exact ih product (unsigned'.mul unsigned') _

theorem unsigned_power {base : Float} (unsigned : Unsigned base) (exponent : Nat) :
    Unsigned (power base exponent) := unsigned_powerFrom (unsigned_ofScientific 10 true 1) unsigned _ _

end Operations

/-- A rounding that takes no value below zero that is not there. -/
def KeepsSign (rounding : Float → Float) : Prop := ∀ value, ¬ value < 0.0 → ¬ rounding value < 0.0

theorem keepsSign_roundBy (rule : Rule) : KeepsSign (roundBy rule) := by
  intro value enough
  unfold roundBy
  split
  next sign mantissa exponent _ found =>
    have positive := not_lt_zero.mp enough
    rw [found, isBelow_finite] at positive
    obtain rfl := eq_positive positive
    dsimp only
    split
    · exact enough
    split
    · exact (unsigned_ofNat _).not_lt_zero
    · exact (unsigned_ofNat _).not_lt_zero
  next => exact enough

theorem keepsSign_roundHalfUp : KeepsSign roundHalfUp := by
  intro value enough
  have low : ¬ floor value < 0.0 := keepsSign_roundBy _ value enough
  have one : ¬ (1.0 : Float) < 0.0 := (unsigned_ofScientific 10 true 1).not_lt_zero
  unfold roundHalfUp
  dsimp only
  split
  · exact add_not_lt_zero low one
  · exact low

/-- Rounding at a decimal keeps the sign as well. -/
theorem KeepsSign.roundAt {rounding : Float → Float} (keeps : KeepsSign rounding) (places : Nat) :
    KeepsSign (Amount.roundAt rounding places) := by
  intro value enough
  have unsigned : Unsigned (power 10.0 places) := unsigned_power (unsigned_ofScientific 100 true 1) places
  unfold Amount.roundAt
  dsimp only
  split
  · exact div_not_lt_zero (keeps _ (mul_not_lt_zero enough unsigned)) unsigned
  · exact enough

/-- The roundings to an integer that are ready for use. -/
def roundings : List (Float → Float) := [roundHalfUp, floor, ceiling, truncate, nearest]

theorem keepsSign_of_mem {rounding : Float → Float} (member : rounding ∈ roundings) : KeepsSign rounding := by
  simp only [roundings, List.mem_cons, List.not_mem_nil, or_false] at member
  rcases member with rfl | rfl | rfl | rfl | rfl
  · exact keepsSign_roundHalfUp
  all_goals exact keepsSign_roundBy _

/-- The integral part of a value that is not below zero is not below zero. -/
theorem clampedInt_nonneg {low high : Int} {value : Float} (enough : ¬ value < 0.0) (most : 0 ≤ high) :
    0 ≤ clampedInt low high value := by
  have positive := not_lt_zero.mp enough
  unfold clampedInt
  split
  next => exact Int.le_refl 0
  next sign found =>
    rw [found, isBelow_infinity] at positive
    simpa [positive] using most
  next => omega
  next sign mantissa exponent _ found =>
    rw [found, isBelow_finite] at positive
    obtain rfl := eq_positive positive
    have magnitude := Int.natCast_nonneg (integralPart mantissa exponent)
    change 0 ≤ max low (min high (integralPart mantissa exponent : Int))
    omega

end NumberPattern.Double
