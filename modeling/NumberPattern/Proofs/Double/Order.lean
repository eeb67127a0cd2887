import NumberPattern.Double.Integral

/-! The order of doubles is asymmetric: no value is on both sides of another. -/

namespace NumberPattern.Double
open Float.Model (UnpackedFloat)

theorem compare_magnitude (exponent exponent' : Int) (mantissa mantissa' : Nat) :
    (compare exponent' exponent).then (compare mantissa' mantissa) =
      ((compare exponent exponent').then (compare mantissa mantissa')).swap := by
  have exponents : compare exponent' exponent = (compare exponent exponent').swap := Std.OrientedCmp.eq_swap
  have mantissas : compare mantissa' mantissa = (compare mantissa mantissa').swap := Std.OrientedCmp.eq_swap
  rw [Ordering.swap_then, exponents, mantissas]

theorem compare_swap (value other : UnpackedFloat) :
    other.compare value = (value.compare other).map Ordering.swap := by
  cases value with
  | notANumber => cases other <;> rfl
  | infinity sign =>
    cases other with
    | infinity sign' => cases sign <;> cases sign' <;> rfl
    | _ => cases sign <;> rfl
  | zero sign =>
    cases other with
    | infinity sign' => cases sign' <;> rfl
    | finite sign' => cases sign' <;> rfl
    | _ => rfl
  | finite sign mantissa exponent =>
    cases other with
    | infinity sign' => cases sign' <;> rfl
    | finite sign' mantissa' exponent' =>
      have magnitude := congrArg some (compare_magnitude exponent exponent' mantissa mantissa')
      have swapped := congrArg (Option.map Ordering.swap) magnitude
      cases sign with
      | positive =>
        cases sign' with
        | positive => exact magnitude
        | negative => rfl
      | negative =>
        cases sign' with
        | positive => rfl
        | negative => exact swapped
    | _ => cases sign <;> rfl

theorem lt_iff {value other : Float} : value < other ↔ (parts value).compare (parts other) = some .lt := by
  change decide (value.toModel < other.toModel) = true ↔ _
  rw [decide_eq_true_eq]
  exact beq_iff_eq

theorem lt_asymm {value other : Float} (less : value < other) : ¬ other < value := by
  rw [lt_iff] at less ⊢
  rw [compare_swap, less]
  simp

end NumberPattern.Double
