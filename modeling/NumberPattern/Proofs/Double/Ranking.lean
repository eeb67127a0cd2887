import Mathlib.Data.Prod.Lex
import NumberPattern.Proofs.Double.Roundings

/-! The doubles that are numbers are ranked in a line, with one rank for both zeros. What is not below is
therefore at or above, unless one of the two is no number. -/

namespace NumberPattern.Double
open Float.Model (UnpackedFloat)

/-- By sign and size first, then by exponent, then by mantissa. -/
abbrev Rank := Int ×ₗ Int ×ₗ Int

def Rank.of (kind exponent mantissa : Int) : Rank := toLex (kind, toLex (exponent, mantissa))

def rank : UnpackedFloat → Option Rank
  | .notANumber => none
  | .infinity .negative => some (.of (-2) 0 0)
  | .finite .negative mantissa exponent _ => some (.of (-1) (-exponent) (-mantissa))
  | .zero _ => some (.of 0 0 0)
  | .finite .positive mantissa exponent _ => some (.of 1 exponent mantissa)
  | .infinity .positive => some (.of 2 0 0)

theorem Rank.compare_of (kind kind' exponent exponent' mantissa mantissa' : Int) :
    compare (Rank.of kind exponent mantissa) (Rank.of kind' exponent' mantissa') =
      (compare kind kind').then ((compare exponent exponent').then (compare mantissa mantissa')) := rfl

theorem compare_neg (a b : Int) : compare (-a) (-b) = compare b a := by
  rw [← cmp_eq_compare, ← cmp_eq_compare]
  exact StrictAnti.cmp_map_eq (fun _ _ less => Int.neg_lt_neg less) a b

theorem compare_natCast (m n : Nat) : compare (m : Int) n = compare m n := by
  rw [← cmp_eq_compare, ← cmp_eq_compare]
  exact StrictMono.cmp_map_eq (fun _ _ less => Int.ofNat_lt.mpr less) m n

/-- Numbers compare like their ranks. -/
theorem compare_eq_rank (value other : UnpackedFloat) :
    value.compare other = (rank value).bind fun low => (rank other).map fun high => compare low high := by
  cases value with
  | notANumber => rfl
  | infinity sign =>
    cases other with
    | infinity sign' => cases sign <;> cases sign' <;> rfl
    | finite sign' => cases sign <;> cases sign' <;> rfl
    | _ => cases sign <;> rfl
  | zero sign =>
    cases other with
    | infinity sign' | finite sign' => cases sign' <;> rfl
    | _ => rfl
  | finite sign mantissa exponent =>
    cases other with
    | infinity sign' => cases sign <;> cases sign' <;> rfl
    | finite sign' mantissa' exponent' =>
      cases sign with
      | positive =>
        cases sign' with
        | positive =>
          change _ = some (compare (Rank.of 1 exponent mantissa) (Rank.of 1 exponent' mantissa'))
          rw [Rank.compare_of, compare_natCast]
          rfl
        | negative => rfl
      | negative =>
        cases sign' with
        | positive => rfl
        | negative =>
          change _ = some
            (compare (Rank.of (-1) (-exponent) (-mantissa)) (Rank.of (-1) (-exponent') (-mantissa')))
          rw [Rank.compare_of, compare_neg exponent, compare_neg mantissa, compare_natCast]
          exact congrArg some (compare_magnitude exponent exponent' mantissa mantissa').symm
    | _ => cases sign <;> rfl

variable {value other further : Float}

theorem lt_iff_rank : value < other ↔
    ∃ low high, rank (parts value) = some low ∧ rank (parts other) = some high ∧ low < high := by
  rw [lt_iff, compare_eq_rank]
  constructor
  · intro less
    obtain ⟨low, found, below⟩ := Option.bind_eq_some_iff.mp less
    obtain ⟨high, found', order⟩ := Option.map_eq_some_iff.mp below
    exact ⟨low, high, found, found', compare_lt_iff_lt.mp order⟩
  · rintro ⟨low, high, found, found', less⟩
    rw [found, found', Option.bind_some, Option.map_some, compare_lt_iff_lt.mpr less]

theorem le_iff_rank : value ≤ other ↔
    ∃ low high, rank (parts value) = some low ∧ rank (parts other) = some high ∧ low ≤ high := by
  rw [le_iff, compare_eq_rank]
  cases rank (parts value) with
  | none => simp
  | some low =>
    cases rank (parts other) with
    | none => simp
    | some high => simp [Ordering.isLE_iff_ne_gt, compare_le_iff_le]

theorem exists_rank (number : value.isNaN = false) : ∃ place, rank (parts value) = some place := by
  change (parts value).isNaN = false at number
  cases found : parts value with
  | notANumber => rw [found] at number; cases number
  | infinity sign | finite sign => cases sign <;> exact ⟨_, rfl⟩
  | zero sign => exact ⟨_, rfl⟩

theorem lt_of_lt_of_le (less : value < other) (most : other ≤ further) : value < further := by
  obtain ⟨low, middle, found, found', below⟩ := lt_iff_rank.mp less
  obtain ⟨middle', high, same, found'', above⟩ := le_iff_rank.mp most
  obtain rfl := Option.some.inj (found'.symm.trans same)
  exact lt_iff_rank.mpr ⟨low, high, found, found'', below.trans_le above⟩

theorem not_le_of_lt (less : value < other) : ¬ other ≤ value := by
  intro most
  obtain ⟨low, high, found, found', below⟩ := lt_iff_rank.mp less
  obtain ⟨high', low', same, same', above⟩ := le_iff_rank.mp most
  obtain rfl := Option.some.inj (found.symm.trans same')
  obtain rfl := Option.some.inj (found'.symm.trans same)
  exact absurd above (not_le.mpr below)

theorem le_of_not_lt (number : value.isNaN = false) (number' : other.isNaN = false) (enough : ¬ value < other) :
    other ≤ value := by
  obtain ⟨low, found⟩ := exists_rank number'
  obtain ⟨high, found'⟩ := exists_rank number
  refine le_iff_rank.mpr ⟨low, high, found, found', not_lt.mp fun below => enough ?_⟩
  exact lt_iff_rank.mpr ⟨high, low, found', found, below⟩

/-- Without its sign a value is of the same kind. -/
theorem parts_abs (value : Float) : parts value.abs = (parts value).abs := by
  have held : IsStored (parts value).abs := by
    have held := isStored_parts value
    cases found : parts value with
    | finite => rw [found] at held; exact held
    | _ => trivial
  exact stored_eq held

theorem isNaN_abs : value.abs.isNaN = value.isNaN := by
  change (parts value.abs).isNaN = (parts value).isNaN
  rw [parts_abs]
  cases parts value <;> rfl

theorem isFinite_abs : value.abs.isFinite = value.isFinite := by
  change (parts value.abs).isFinite = (parts value).isFinite
  rw [parts_abs]
  cases parts value <;> rfl

theorem isNaN_of_isFinite (finite : value.isFinite = true) : value.isNaN = false := by
  change (parts value).isFinite = true at finite
  change (parts value).isNaN = false
  cases found : parts value with
  | notANumber => rw [found] at finite; cases finite
  | _ => rfl

/-- What is no number is neither below nor above any value. -/
theorem rank_of_isNaN (invalid : value.isNaN = true) : rank (parts value) = none := by
  change (parts value).isNaN = true at invalid
  cases found : parts value with
  | notANumber => rfl
  | _ => rw [found] at invalid; cases invalid

theorem not_lt_of_isNaN (invalid : value.isNaN = true) : ¬ value < other := by
  simp [lt_iff_rank, rank_of_isNaN invalid]

theorem not_le_of_isNaN (invalid : value.isNaN = true) : ¬ other ≤ value := by
  simp [le_iff_rank, rank_of_isNaN invalid]

theorem lt_infinity (finite : value.isFinite = true) : value < 1.0 / 0.0 := by
  have top : parts (1.0 / 0.0) = .infinity .positive := rfl
  change (parts value).isFinite = true at finite
  rw [lt_iff, top]
  cases found : parts value with
  | notANumber | infinity => rw [found] at finite; cases finite
  | zero | finite => rfl

/-- Nothing is above the absolute value of an infinity. -/
theorem not_abs_lt_of_isInf (infinite : value.isInf = true) : ¬ value.abs < other := by
  change (parts value).isInf = true at infinite
  rw [lt_iff, parts_abs]
  cases found : parts value with
  | infinity sign =>
    change ¬ (UnpackedFloat.infinity .positive).compare (parts other) = some .lt
    cases parts other with
    | infinity sign' => cases sign' <;> exact nofun
    | _ => exact nofun
  | _ => rw [found] at infinite; cases infinite

end NumberPattern.Double
