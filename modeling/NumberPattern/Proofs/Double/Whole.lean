import NumberPattern.Proofs.Double.Rounded

/-! Doubles that are whole numbers. Sums and products of whole numbers are rounded to whole numbers, to the
exact ones while these have no more than 53 bits, and the roundings to an integer give whole numbers. -/

namespace NumberPattern.Double
open Float.Model (UnpackedFloat Format)
open Float.Model.UnpackedFloat (Sign)

def wholeOf : UnpackedFloat → Option Int
  | .zero _ => some 0
  | .finite sign mantissa exponent _ =>
      if fractionBits mantissa exponent = 0 then some (sign.apply (integralPart mantissa exponent)) else none
  | _ => none

/-- The integer that a double is, if it is one. -/
def whole? (value : Float) : Option Int := wholeOf (parts value)

/-- A whole number in the form in which doubles are held. -/
inductive IsWhole : UnpackedFloat → Int → Prop where
  | zero (sign : Sign) : IsWhole (.zero sign) 0
  | finite (sign : Sign) {mantissa n : Nat} {exponent : Int} (positive : 0 < mantissa)
      (canonical : Canonical mantissa exponent) (amounts : Amounts mantissa exponent n) :
      IsWhole (.finite sign mantissa exponent positive) (sign.apply n)

variable {value other : UnpackedFloat} {a b : Int} {sign : Sign} {mantissa n : Nat} {exponent : Int}

theorem wholeOf_finite (positive : 0 < mantissa) : wholeOf (.finite sign mantissa exponent positive) =
    if fractionBits mantissa exponent = 0 then some (sign.apply (integralPart mantissa exponent)) else none := rfl

theorem IsWhole.wholeOf_eq (whole : IsWhole value a) : wholeOf value = some a := by
  cases whole with
  | zero => rfl
  | finite sign positive canonical amounts =>
    obtain ⟨none, part⟩ := amounts_iff_bits.mp amounts
    rw [wholeOf_finite, if_pos none, part]

theorem isWhole_of_wholeOf (held : IsStored value) (whole : wholeOf value = some a) : IsWhole value a := by
  cases value with
  | infinity | notANumber => cases whole
  | zero sign =>
    cases whole
    exact .zero sign
  | finite sign mantissa exponent positive =>
    rw [wholeOf_finite] at whole
    split at whole
    next none =>
      cases whole
      exact .finite sign positive held.1 (amounts_iff_bits.mpr ⟨none, rfl⟩)
    · cases whole

theorem whole?_eq_some {value : Float} : whole? value = some a ↔ IsWhole (parts value) a :=
  ⟨isWhole_of_wholeOf (isStored_parts value), IsWhole.wholeOf_eq⟩

/-- What the parts of a whole number are. -/
theorem parts_of_whole {value : Float} (whole : whole? value = some a) :
    (∃ sign, parts value = .zero sign ∧ a = 0) ∨
      ∃ sign mantissa exponent positive n, parts value = .finite sign mantissa exponent positive ∧
        Canonical mantissa exponent ∧ Amounts mantissa exponent n ∧ a = sign.apply n := by
  have known := whole?_eq_some.mp whole
  generalize parts value = unpacked at known
  cases known with
  | zero sign => exact Or.inl ⟨sign, rfl, rfl⟩
  | finite sign positive canonical amounts =>
    exact Or.inr ⟨sign, _, _, positive, _, rfl, canonical, amounts, rfl⟩

theorem apply_mul (sign sign' : Sign) (n m : Int) : (sign * sign').apply (n * m) = sign.apply n * sign'.apply m := by
  cases sign with
  | positive =>
    cases sign' with
    | positive => rfl
    | negative => exact (Int.mul_neg n m).symm
  | negative =>
    cases sign' with
    | positive => exact (Int.neg_mul n m).symm
    | negative => exact (Int.neg_mul_neg n m).symm

theorem natAbs_apply (sign : Sign) (n : Nat) : (sign.apply n).natAbs = n := by
  cases sign <;> simp [Sign.apply]

theorem IsWhole.isFinite (whole : IsWhole value a) : value.isFinite = true := by
  cases whole with
  | zero => rfl
  | finite => rfl

/-- A whole number is stored as it is when it does not become infinite. -/
theorem IsWhole.stored (whole : IsWhole value a) (finite : (stored value).isFinite = true) : IsWhole (stored value) a := by
  cases whole with
  | zero sign => cases sign <;> exact .zero _
  | @finite sign mantissa n exponent positive canonical amounts =>
    rw [stored_finite canonical] at finite ⊢
    by_cases beyond : 971 < exponent
    · rw [if_pos beyond] at finite
      cases finite
    · rw [if_neg beyond]
      exact .finite sign positive canonical amounts

theorem IsWhole.stored_of_le (whole : IsWhole value a) (small : a.natAbs ≤ 2 ^ 53) : IsWhole (Double.stored value) a := by
  apply whole.stored
  cases whole with
  | zero sign => cases sign <;> rfl
  | @finite sign mantissa n exponent positive canonical amounts =>
    rw [natAbs_apply] at small
    have some_ : n ≠ 0 := (amounts.pos positive).ne'
    have bits : n.log2 < 54 := (Nat.log2_lt some_).mpr (by omega)
    have exponent_eq := canonical.exponent_eq amounts positive
    rw [stored_finite canonical, if_neg (by omega)]
    rfl

/-- What some double is, another one can store. -/
theorem IsWhole.stored_of_whole {other : Float} (whole : IsWhole value a) (held : whole? other = some a) :
    IsWhole (Double.stored value) a := by
  apply whole.stored
  cases whole with
  | zero sign => cases sign <;> rfl
  | @finite sign mantissa n exponent positive canonical amounts =>
    have some_ := amounts.pos positive
    rcases parts_of_whole held with
      ⟨_, _, zero⟩ | ⟨sign', mantissa', exponent', positive', m, found, canonical', amounts', same⟩
    · have size := congrArg Int.natAbs zero
      rw [natAbs_apply] at size
      exact absurd size some_.ne'
    · have size := congrArg Int.natAbs same
      rw [natAbs_apply, natAbs_apply] at size
      have bounded := isStored_parts other
      rw [found] at bounded
      have reached := canonical.exponent_eq amounts positive
      have reached' := canonical'.exponent_eq amounts' positive'
      have most := bounded.2
      rw [size] at reached
      rw [stored_finite canonical, if_neg (by omega)]
      rfl

theorem fits_of_whole {value : Float} (whole : whole? value = some a) : Fits a.natAbs := by
  rcases parts_of_whole whole with ⟨_, _, rfl⟩ | ⟨_, _, _, positive, _, _, canonical, amounts, rfl⟩
  · exact fits_of_le (Nat.zero_le _)
  · rw [natAbs_apply]
    exact canonical.fits amounts positive

theorem IsWhole.neg (whole : IsWhole value a) : IsWhole value.neg (-a) := by
  cases whole with
  | zero sign => exact .zero _
  | @finite sign mantissa n exponent positive canonical amounts =>
    have flipped : -sign.apply n = (-sign).apply n := by
      cases sign with
      | positive => rfl
      | negative => exact Int.neg_neg n
    rw [flipped]
    exact .finite _ positive canonical amounts

theorem IsWhole.mul (whole : IsWhole value a) (whole' : IsWhole other b) :
    ∃ c, IsWhole (UnpackedFloat.mul Format.binary64 value other) c ∧ (Fits (a * b).natAbs → c = a * b) := by
  cases whole with
  | zero sign =>
    cases whole' with
    | zero sign' => exact ⟨0, .zero _, by simp⟩
    | finite sign' => exact ⟨0, .zero _, by simp⟩
  | @finite sign mantissa n exponent positive canonical amounts =>
    cases whole' with
    | zero sign' => exact ⟨0, .zero _, by simp⟩
    | @finite sign' mantissa' n' exponent' positive' canonical' amounts' =>
      have long := canonical.long amounts positive
      have product : 2 ^ 52 ≤ mantissa * mantissa' := long.trans (Nat.le_mul_of_pos_right _ positive')
      obtain ⟨_, _, positive, m, result, held, amount, same⟩ :=
        roundWithAccuracy_whole (sign * sign') (amounts.mul amounts') product
      refine ⟨(sign * sign').apply m, ?_, ?_⟩
      · change IsWhole (UnpackedFloat.roundWithAccuracy _ _ _ _ _) _
        rw [result]
        exact .finite _ positive held amount
      · rw [Int.natAbs_mul, natAbs_apply, natAbs_apply]
        intro fits
        rw [same fits, Nat.cast_mul, apply_mul]

theorem isWhole_round (sign : Sign) (amounts : Amounts mantissa exponent n) (positive : 0 < mantissa) :
    ∃ c, IsWhole (UnpackedFloat.round Format.binary64 sign mantissa exponent) c ∧ (Fits n → c = sign.apply n) := by
  obtain ⟨_, _, positive', m, result, held, amount, same⟩ := round_whole sign amounts positive
  rw [result]
  refine ⟨sign.apply m, .finite sign positive' held amount, ?_⟩
  intro fits
  rw [same fits]

/-- A whole number written as an integral mantissa and an exponent is rounded to a whole number. -/
theorem isWhole_normalize {mantissa total : Int}
    (amounts : mantissa * 2 ^ exponent.toNat = total * 2 ^ (-exponent).toNat) :
    ∃ c, IsWhole (UnpackedFloat.normalize Format.binary64 mantissa exponent .positive) c ∧
      (Fits total.natAbs → c = total) := by
  have unit : (0 : Int) < 2 ^ exponent.toNat := by positivity
  have unit' : (0 : Int) < 2 ^ (-exponent).toNat := by positivity
  have least_iff : 0 ≤ mantissa ↔ 0 ≤ total := by
    rw [← mul_nonneg_iff_of_pos_right unit, amounts, mul_nonneg_iff_of_pos_right unit']
  have above_iff : 0 < mantissa ↔ 0 < total := by
    rw [← mul_pos_iff_of_pos_right unit, amounts, mul_pos_iff_of_pos_right unit']
  have magnitude : Amounts mantissa.natAbs exponent total.natAbs := by
    have sizes := congrArg Int.natAbs amounts
    rw [Amounts]
    simpa [Int.natAbs_mul, Int.natAbs_pow] using sizes
  unfold UnpackedFloat.normalize
  split
  next below =>
    have negative : mantissa < 0 := Int.compare_eq_lt.mp below
    have size : (-mantissa).toNat = mantissa.natAbs := by omega
    obtain ⟨c, whole, same⟩ := isWhole_round .negative magnitude (by omega)
    rw [size]
    refine ⟨c, whole, ?_⟩
    intro fits
    rw [same fits, Sign.apply]
    omega
  next equal =>
    have zero : mantissa = 0 := Int.compare_eq_eq.mp equal
    refine ⟨0, .zero _, ?_⟩
    intro fits
    omega
  next above =>
    have positive : 0 < mantissa := Int.compare_eq_gt.mp above
    have size : mantissa.toNat = mantissa.natAbs := by omega
    obtain ⟨c, whole, same⟩ := isWhole_round .positive magnitude (by omega)
    rw [size]
    refine ⟨c, whole, ?_⟩
    intro fits
    rw [same fits, Sign.apply]
    omega

theorem apply_amounts (sign : Sign) (amounts : Amounts mantissa exponent n) :
    sign.apply mantissa * 2 ^ exponent.toNat = sign.apply n * 2 ^ (-exponent).toNat := by
  have magnitude : (mantissa : Int) * 2 ^ exponent.toNat = n * 2 ^ (-exponent).toNat := by exact_mod_cast amounts
  cases sign with
  | positive => exact magnitude
  | negative => simpa [Sign.apply] using magnitude

/-- The mantissa at a lower exponent. -/
theorem amounts_decreased {target : Int} (lower : target ≤ exponent) :
    Amounts (UnpackedFloat.decreaseExponent mantissa exponent target).1 target n ↔ Amounts mantissa exponent n := by
  have reached : exponent - ((exponent - target).toNat : Int) = target := by omega
  have lowered : Amounts (mantissa * 2 ^ (exponent - target).toNat) (exponent - (exponent - target).toNat) n ↔
      Amounts mantissa exponent n := amounts_lowered_iff _
  rw [reached, ← Nat.shiftLeft_eq] at lowered
  exact lowered

theorem IsWhole.add (whole : IsWhole value a) (whole' : IsWhole other b) :
    ∃ c, IsWhole (UnpackedFloat.add Format.binary64 value other) c ∧ (Fits (a + b).natAbs → c = a + b) := by
  cases whole with
  | zero sign =>
    cases whole' with
    | zero sign' => cases sign <;> cases sign' <;> exact ⟨0, .zero _, fun _ => rfl⟩
    | finite sign' positive' canonical' amounts' =>
      exact ⟨_, .finite sign' positive' canonical' amounts', fun _ => (Int.zero_add _).symm⟩
  | @finite sign mantissa n exponent positive canonical amounts =>
    cases whole' with
    | zero sign' => exact ⟨_, .finite sign positive canonical amounts, fun _ => (Int.add_zero _).symm⟩
    | @finite sign' mantissa' n' exponent' positive' canonical' amounts' =>
      apply isWhole_normalize
      have first := apply_amounts sign ((amounts_decreased (min_le_left exponent exponent')).mpr amounts)
      have second := apply_amounts sign' ((amounts_decreased (min_le_right exponent exponent')).mpr amounts')
      rw [Int.add_mul, Int.add_mul, ← first, ← second]
      rfl

theorem IsWhole.sub_self (whole : IsWhole value a) :
    UnpackedFloat.sub Format.binary64 value value = .zero .positive := by
  cases whole with
  | zero sign => cases sign <;> rfl
  | finite sign positive canonical amounts =>
    change UnpackedFloat.normalize Format.binary64 (_ - _) _ .positive = _
    rw [Int.sub_self]
    rfl

theorem stored_ne_zero {positive : 0 < mantissa} (canonical : Canonical mantissa exponent) (sign' : Sign) :
    stored (.finite sign mantissa exponent positive) ≠ .zero sign' := by
  intro zero
  rw [stored_finite canonical] at zero
  by_cases beyond : 971 < exponent
  · rw [if_pos beyond] at zero
    cases zero
  · rw [if_neg beyond] at zero
    cases zero

theorem normalize_ne_zero {mantissa : Int} (some_ : mantissa ≠ 0) (least : -1074 ≤ exponent) (sign : Sign) :
    stored (UnpackedFloat.normalize Format.binary64 mantissa exponent .positive) ≠ .zero sign := by
  unfold UnpackedFloat.normalize
  split
  next below =>
    have negative : mantissa < 0 := Int.compare_eq_lt.mp below
    obtain ⟨_, _, _, result, canonical⟩ :=
      canonical_round .negative (show 0 < (-mantissa).toNat by omega) least
    rw [result]
    exact stored_ne_zero canonical sign
  next equal => exact absurd (Int.compare_eq_eq.mp equal) some_
  next above =>
    have positive : 0 < mantissa := Int.compare_eq_gt.mp above
    obtain ⟨_, _, _, result, canonical⟩ :=
      canonical_round .positive (show 0 < mantissa.toNat by omega) least
    rw [result]
    exact stored_ne_zero canonical sign

/-- A value with a fraction differs from each whole number, and the difference is not rounded to zero. -/
theorem IsWhole.sub_ne_zero (whole : IsWhole other a) {positive : 0 < mantissa}
    (canonical : Canonical mantissa exponent) (broken : fractionBits mantissa exponent ≠ 0) (sign' : Sign) :
    Double.stored (UnpackedFloat.sub Format.binary64 (.finite sign mantissa exponent positive) other) ≠
      .zero sign' := by
  cases whole with
  | zero => exact stored_ne_zero canonical sign'
  | @finite sign'' mantissa' n exponent' positive' canonical' amounts' =>
    have least := canonical.least
    have least' := canonical'.least
    apply normalize_ne_zero _ (by omega)
    intro same
    have sizes := congrArg Int.natAbs (Int.sub_eq_zero.mp same)
    rw [natAbs_apply, natAbs_apply] at sizes
    have aligned := (amounts_decreased (min_le_right exponent exponent')).mpr amounts'
    have amounts : Amounts mantissa exponent n := by
      rw [← amounts_decreased (min_le_left exponent exponent')]
      rwa [show (UnpackedFloat.decreaseExponent mantissa exponent (min exponent exponent')).1 = _ from sizes]
    exact broken (amounts_iff_bits.mp amounts).1

/-- The sum with a positive zero has lost the sign of a negative zero. -/
theorem add_zero_eq (spec : Format) (value : UnpackedFloat) :
    UnpackedFloat.add spec value (.zero .positive) =
      match value with
      | .zero _ => .zero .positive
      | value => value := by
  cases value with
  | zero sign => cases sign <;> rfl
  | _ => rfl

theorem isWhole_zero_iff : IsWhole (.zero sign) a ↔ a = 0 := by
  constructor
  · intro whole
    cases whole
    rfl
  · rintro rfl
    exact .zero sign

theorem isWhole_finite_iff {positive : 0 < mantissa} (canonical : Canonical mantissa exponent) :
    IsWhole (.finite sign mantissa exponent positive) a ↔ ∃ n, Amounts mantissa exponent n ∧ a = sign.apply n := by
  constructor
  · intro whole
    cases whole with
    | finite sign positive canonical amounts => exact ⟨_, amounts, rfl⟩
  · rintro ⟨n, amounts, rfl⟩
    exact .finite sign positive canonical amounts

theorem apply_inj {m : Nat} {sign' : Sign} (some_ : 0 < n) :
    sign.apply n = sign'.apply m ↔ sign = sign' ∧ n = m := by
  cases sign <;> cases sign' <;> simp [Sign.apply] <;> omega

theorem compare_finite (sign : Sign) {mantissa' : Nat} {exponent' : Int} (positive : 0 < mantissa)
    (positive' : 0 < mantissa') :
    (UnpackedFloat.finite sign mantissa exponent positive).compare
        (.finite sign' mantissa' exponent' positive') = some .eq ↔
      sign = sign' ∧ exponent = exponent' ∧ mantissa = mantissa' := by
  have magnitude : (compare exponent exponent').then (compare mantissa mantissa') = .eq ↔
      exponent = exponent' ∧ mantissa = mantissa' := by
    rw [Ordering.then_eq_eq, Std.compare_eq_iff_eq, Std.compare_eq_iff_eq]
  cases sign with
  | positive =>
    cases sign' with
    | positive =>
      change some ((compare exponent exponent').then (compare mantissa mantissa')) = some .eq ↔ _
      simp [magnitude]
    | negative => exact ⟨nofun, nofun⟩
  | negative =>
    cases sign' with
    | positive => exact ⟨nofun, nofun⟩
    | negative =>
      change some ((compare exponent exponent').then (compare mantissa mantissa')).swap = some .eq ↔ _
      simp [magnitude]

theorem apply_ne_zero (sign : Sign) (some_ : 0 < n) : sign.apply n ≠ 0 := by
  cases sign <;> simp [Sign.apply] <;> omega

/-- What compares equal to a whole number is the same whole number. -/
theorem IsWhole.compare_eq (whole : IsWhole value a) (held : IsStored other) :
    other.compare value = some .eq ↔ IsWhole other a := by
  cases whole with
  | zero sign =>
    cases other with
    | notANumber => exact ⟨nofun, nofun⟩
    | infinity sign' => cases sign' <;> exact ⟨nofun, nofun⟩
    | zero sign' => exact ⟨fun _ => .zero sign', fun _ => rfl⟩
    | finite sign' mantissa' exponent' positive' =>
      rw [isWhole_finite_iff held.1]
      constructor
      · cases sign' <;> nofun
      · rintro ⟨n, amounts, zero⟩
        exact absurd zero.symm (apply_ne_zero sign' (amounts.pos positive'))
  | @finite sign mantissa n exponent positive canonical amounts =>
    have some_ := amounts.pos positive
    cases other with
    | notANumber => exact ⟨nofun, nofun⟩
    | infinity sign' => cases sign' <;> exact ⟨nofun, nofun⟩
    | zero sign' =>
      rw [isWhole_zero_iff]
      constructor
      · cases sign <;> nofun
      · intro zero
        exact absurd zero (apply_ne_zero sign some_)
    | finite sign' mantissa' exponent' positive' =>
      rw [isWhole_finite_iff held.1, compare_finite]
      constructor
      · rintro ⟨rfl, rfl, rfl⟩
        exact ⟨n, amounts, rfl⟩
      · rintro ⟨n', amounts', same⟩
        obtain ⟨rfl, rfl⟩ := (apply_inj some_).mp same
        obtain rfl : exponent' = exponent := by
          rw [held.1.exponent_eq amounts' positive', canonical.exponent_eq amounts positive]
        exact ⟨rfl, rfl, amounts'.mantissa_unique amounts⟩

/-- The quotient of two mantissas, of which the first is shifted first. -/
theorem divCore_exact {mantissa mantissa' quotient down : Nat} {exponent exponent' target : Int}
    (positive : 0 < mantissa') (shifted : mantissa * 2 ^ down = quotient * mantissa')
    (target_eq : target = min (exponent - exponent')
      (max ((mantissa.log2 : Int) + 1 + exponent - (mantissa'.log2 + 1 + exponent') - 53) (-1074)))
    (down_eq : down = (exponent - exponent' - target).toNat) :
    UnpackedFloat.divCore Format.binary64 mantissa exponent mantissa' exponent' = (quotient, target, .exact) := by
  have split : UnpackedFloat.divCore Format.binary64 mantissa exponent mantissa' exponent' =
      ((mantissa <<< down) / mantissa', target,
        UnpackedFloat.accuracyOfFraction ((mantissa <<< down) % mantissa') mantissa') := by
    rw [down_eq, target_eq]
    rfl
  rw [split, Nat.shiftLeft_eq, shifted, Nat.mul_div_cancel _ positive, Nat.mul_mod_left]
  rfl

/-- A whole number that fits has a mantissa for each exponent at which its bits are not cut. -/
theorem exists_amounts (fits : Fits n) (few : exponent ≤ n.log2 - 52) : ∃ mantissa, Amounts mantissa exponent n := by
  have enough : exponent.toNat ≤ n.log2 - 52 := by omega
  obtain ⟨rest, split⟩ := (Nat.pow_dvd_pow 2 enough).trans fits
  refine ⟨rest * 2 ^ (-exponent).toNat, ?_⟩
  rw [Amounts]
  conv_rhs => rw [split]
  ring

theorem log2_mul_le {m : Nat} (some_ : n ≠ 0) (some' : m ≠ 0) : (n * m).log2 ≤ n.log2 + m.log2 + 1 := by
  have below : n * m < 2 ^ (n.log2 + m.log2 + 2) := by
    calc
      n * m < 2 ^ (n.log2 + 1) * 2 ^ (m.log2 + 1) := Nat.mul_lt_mul_of_lt_of_lt Nat.lt_log2_self Nat.lt_log2_self
      _ = 2 ^ (n.log2 + m.log2 + 2) := by ring
  have bits := (Nat.log2_lt (Nat.mul_ne_zero some_ some')).mpr below
  omega

theorem apply_div (sign sign' : Sign) (n m : Int) : (sign / sign').apply n * sign'.apply m = sign.apply (n * m) := by
  cases sign with
  | positive =>
    cases sign' with
    | positive => rfl
    | negative => exact Int.neg_mul_neg n m
  | negative =>
    cases sign' with
    | positive => exact Int.neg_mul n m
    | negative => exact Int.mul_neg n m

/-- The mantissa of a quotient without a rest has all of its bits before it is rounded. -/
theorem divCore_of_amounts {mantissa' m : Nat} {exponent' : Int} (positive : 0 < mantissa)
    (positive' : 0 < mantissa') (amounts : Amounts mantissa exponent (n * m))
    (amounts' : Amounts mantissa' exponent' m) (fits : Fits n) :
    ∃ quotient target,
      UnpackedFloat.divCore Format.binary64 mantissa exponent mantissa' exponent' = (quotient, target, .exact) ∧
      Amounts quotient target n ∧ 2 ^ 52 ≤ quotient := by
  have some_ := amounts'.pos positive'
  have some' : 0 < n := Nat.pos_of_mul_pos_right (amounts.pos positive)
  have logs := amounts.log2_eq positive
  have logs' := amounts'.log2_eq positive'
  have most := log2_mul_le some'.ne' some_.ne'
  obtain ⟨target, target_eq⟩ : ∃ target, target = min (exponent - exponent')
    (max ((mantissa.log2 : Int) + 1 + exponent - (mantissa'.log2 + 1 + exponent') - 53) (-1074)) := ⟨_, rfl⟩
  obtain ⟨quotient, amount⟩ := exists_amounts fits (show target ≤ n.log2 - 52 by omega)
  have divides : mantissa * 2 ^ (exponent - exponent' - target).toNat = quotient * mantissa' := by
    have lowered := (amounts_lowered_iff (exponent - exponent' - target).toNat).mpr amounts
    have reached : exponent - ((exponent - exponent' - target).toNat : Int) = target + exponent' := by omega
    rw [reached] at lowered
    exact lowered.mantissa_unique (amount.mul amounts')
  have filled : 0 < quotient := by
    by_contra none
    have nothing : quotient = 0 := by omega
    rw [nothing, Nat.zero_mul] at divides
    have scaled : 0 < mantissa * 2 ^ (exponent - exponent' - target).toNat := by positivity
    omega
  have bits := amount.log2_eq filled
  exact ⟨quotient, target, divCore_exact positive' divides target_eq rfl, amount,
    (Nat.le_log2 filled.ne').mp (by omega)⟩

/-- A product is divided by one of its factors without a rest. -/
theorem IsWhole.div (whole : IsWhole value (a * b)) (whole' : IsWhole other b) (some_ : b ≠ 0)
    (fits : Fits a.natAbs) : IsWhole (UnpackedFloat.div Format.binary64 value other) a := by
  generalize product : a * b = total at whole
  cases whole' with
  | zero => exact absurd rfl some_
  | @finite sign' mantissa' n' exponent' positive' canonical' amounts' =>
    cases whole with
    | zero sign =>
      obtain rfl : a = 0 := (Int.mul_eq_zero.mp product).resolve_right some_
      exact .zero _
    | @finite sign mantissa n exponent positive canonical amounts =>
      have sizes : n = a.natAbs * n' := by
        rw [← natAbs_apply sign n, ← product, Int.natAbs_mul, natAbs_apply]
      rw [sizes] at amounts product
      obtain ⟨quotient, target, core, amount, long⟩ := divCore_of_amounts positive positive' amounts amounts' fits
      obtain ⟨_, _, filled, m, result, held, amount, same⟩ :=
        roundWithAccuracy_whole (sign / sign') amount long
      have signed : a = (sign / sign').apply m := by
        apply Int.eq_of_mul_eq_mul_right some_
        rw [product, same fits, apply_div, Nat.cast_mul]
      have rounded_ : UnpackedFloat.div Format.binary64 (.finite sign mantissa exponent positive)
          (.finite sign' mantissa' exponent' positive') =
            (fun core => UnpackedFloat.roundWithAccuracy Format.binary64 (sign / sign') core.1 core.2.1 core.2.2)
              (UnpackedFloat.divCore Format.binary64 mantissa exponent mantissa' exponent') := rfl
      rw [rounded_, core]
      dsimp only
      rw [result, signed]
      exact .finite _ filled held amount

end NumberPattern.Double
