import NumberPattern.Decimal.Shortest
import NumberPattern.Proofs.Double.Whole

/-! The interval about a double: its integers are those whose nearest double is this one, and a grid has a point
in it when one of the neighbours of the value on the grid is in it. -/

namespace NumberPattern.Decimal
open Double (parts whole? Canonical Amounts)
open Float.Model (UnpackedFloat Format)
open Float.Model.UnpackedFloat (Sign)

variable {mantissa n units place : Nat} {exponent : Int} {value : Float}

namespace Interval

variable {interval : Interval} {other : Nat}

/-- An interval about a whole number, which is none of its ends. -/
structure Surrounds (interval : Interval) (n : Nat) : Prop where
  value : interval.value = n * interval.denominator
  unit : 0 < interval.denominator
  below : interval.low < interval.value
  above : interval.value < interval.high

theorem inUnits_nat (interval : Interval) (place : Nat) :
    interval.inUnits place = { interval with denominator := interval.denominator * 10 ^ place } := by
  have up : (-(place : Int)).toNat = 0 := by omega
  simp only [inUnits, up, Int.toNat_natCast, Nat.pow_eq, Nat.pow_zero, Nat.mul_one]

/-- The points of a grid are the multiples of its unit. -/
theorem contains_inUnits : (interval.inUnits place).contains units = interval.contains (units * 10 ^ place) := by
  have point : units * (interval.denominator * 10 ^ place) = units * 10 ^ place * interval.denominator := by ring
  rw [inUnits_nat, contains, contains]
  dsimp only
  rw [point]

theorem contains_of_lt (below : interval.low < units * interval.denominator)
    (above : units * interval.denominator < interval.high) : interval.contains units = true := by
  unfold contains
  dsimp only
  split
  · exact decide_eq_true ⟨below.le, above.le⟩
  · exact decide_eq_true ⟨below, above⟩

/-- What is between the value and a number of the interval is in the interval. -/
theorem contains_of_between (below : interval.low < interval.value) (above : interval.value < interval.high)
    (inside : interval.contains units = true)
    (between : units * interval.denominator ≤ other * interval.denominator ∧
        other * interval.denominator ≤ interval.value ∨
      interval.value ≤ other * interval.denominator ∧
        other * interval.denominator ≤ units * interval.denominator) :
    interval.contains other = true := by
  cases closed : interval.closed with
  | true =>
    simp only [contains, closed, if_true, decide_eq_true_eq] at inside ⊢
    omega
  | false =>
    simp only [contains, closed, Bool.false_eq_true, if_false, decide_eq_true_eq] at inside ⊢
    omega

theorem contains_of_nearestWhole (found : interval.nearestWhole? = some units) :
    interval.contains units = true := by
  unfold nearestWhole? at found
  dsimp only at found
  split at found
  next below above =>
    split at found <;> cases found
    · exact above
    · exact below
  next below _ =>
    cases found
    exact below
  next _ above =>
    cases found
    exact above
  next => cases found

/-- Where neither neighbour of the value is in the interval, no whole number is. -/
theorem exists_nearestWhole (unit : 0 < interval.denominator) (below : interval.low < interval.value)
    (above : interval.value < interval.high) (inside : interval.contains units = true) :
    ∃ units', interval.nearestWhole? = some units' := by
  have split : interval.denominator * (interval.value / interval.denominator) +
    interval.value % interval.denominator = interval.value := Nat.div_add_mod ..
  have rest : interval.value % interval.denominator < interval.denominator := Nat.mod_lt _ unit
  have neighbour : interval.contains (interval.value / interval.denominator) = true ∨
      interval.contains (interval.value / interval.denominator + 1) = true := by
    rcases Nat.lt_or_ge (interval.value / interval.denominator) units with more | less
    · refine Or.inr (contains_of_between below above inside (Or.inr ⟨?_, Nat.mul_le_mul_right _ more⟩))
      rw [Nat.add_mul, Nat.mul_comm]
      omega
    · exact Or.inl (contains_of_between below above inside
        (Or.inl ⟨Nat.mul_le_mul_right _ less, Nat.div_mul_le_self ..⟩))
  unfold nearestWhole?
  dsimp only
  split
  next => exact ⟨_, rfl⟩
  next => exact ⟨_, rfl⟩
  next => exact ⟨_, rfl⟩
  next none none' => simp [none, none'] at neighbour

theorem nearestWhole_of_value (value : interval.value = n * interval.denominator)
    (unit : 0 < interval.denominator) (inside : interval.contains n = true) :
    interval.nearestWhole? = some n := by
  have quotient : n * interval.denominator / interval.denominator = n := Nat.mul_div_cancel _ unit
  have rest : n * interval.denominator % interval.denominator = 0 := Nat.mul_mod_left ..
  have lower : ¬ interval.denominator ≤ 2 * 0 := by omega
  unfold nearestWhole?
  simp only [value, quotient, rest, inside, lower, if_false]
  cases interval.contains (n + 1) <;> rfl

/-- The first grid with a point, when there is one among those that are searched. -/
theorem firstPoint_spec {room top : Nat} (least : place ≤ top) (enough : top < place + room)
    (found : ∃ units, (interval.inUnits place).nearestWhole? = some units) :
    ∃ units first : Nat, interval.firstPoint room top = (units, (first : Int)) ∧
      (interval.inUnits first).nearestWhole? = some units ∧
      ∀ other : Nat, first < other → other ≤ top → (interval.inUnits other).nearestWhole? = none := by
  induction room generalizing top with
  | zero => omega
  | succ room ih =>
    rw [firstPoint]
    cases here : (interval.inUnits top).nearestWhole? with
    | some units => exact ⟨units, top, rfl, here, fun other above most => by omega⟩
    | none =>
      have lower : place < top := by
        apply Nat.lt_of_le_of_ne least
        rintro rfl
        obtain ⟨units, found⟩ := found
        rw [here] at found
        cases found
      have next : ((top : Nat) : Int) - 1 = (top - 1 : Nat) := by omega
      obtain ⟨units, first, point, there, none⟩ := ih (show place ≤ top - 1 by omega) (by omega)
      refine ⟨units, first, ?_, there, fun other above most => ?_⟩
      · dsimp only
        rw [next, point]
      · rcases Nat.lt_or_eq_of_le most with less | rfl
        · exact none other above (by omega)
        · exact here

namespace Surrounds

variable (surrounds : interval.Surrounds n)
include surrounds

theorem inside : interval.contains n = true := by
  have below := surrounds.below
  have above := surrounds.above
  rw [surrounds.value] at below above
  exact contains_of_lt below above

theorem topPlace_eq (positive : 0 < n) : interval.topPlace = (digits n).length := by
  have enough : interval.denominator ≤ n * interval.denominator := Nat.le_mul_of_pos_left _ positive
  rw [topPlace, surrounds.value, if_pos enough, Nat.mul_div_cancel _ surrounds.unit]

theorem exists_nearestWhole (divides : 10 ^ place ∣ other) (inside : interval.contains other = true) :
    ∃ units, (interval.inUnits place).nearestWhole? = some units := by
  obtain ⟨units, rfl⟩ := divides
  rw [Nat.mul_comm, ← contains_inUnits] at inside
  have unit : 0 < (interval.inUnits place).denominator := by
    rw [inUnits_nat]
    exact Nat.mul_pos surrounds.unit (by positivity)
  apply Interval.exists_nearestWhole unit _ _ inside
  · rw [inUnits_nat]
    exact surrounds.below
  · rw [inUnits_nat]
    exact surrounds.above

/-- A number of its own grid is its nearest point there. -/
theorem nearestWhole_eq (divides : 10 ^ place ∣ n) :
    ∃ units, (interval.inUnits place).nearestWhole? = some units ∧ units * 10 ^ place = n := by
  obtain ⟨units, rfl⟩ := divides
  have inside := surrounds.inside
  rw [Nat.mul_comm, ← contains_inUnits] at inside
  refine ⟨units, nearestWhole_of_value ?_ ?_ inside, Nat.mul_comm ..⟩
  · rw [inUnits_nat]
    dsimp only
    rw [surrounds.value]
    ring
  · rw [inUnits_nat]
    exact Nat.mul_pos surrounds.unit (by positivity)

/-- A wide interval has a multiple of the unit. -/
theorem exists_multiple {unit : Nat} (filled : 0 < unit)
    (wide : interval.low + unit * interval.denominator < interval.high) :
    ∃ other, unit ∣ other ∧ interval.contains other = true := by
  have below := surrounds.below
  have above := surrounds.above
  have least : n / unit * unit * interval.denominator ≤ n * interval.denominator :=
    Nat.mul_le_mul_right _ (Nat.div_mul_le_self ..)
  rw [surrounds.value] at below above
  by_cases inside : interval.low < n / unit * unit * interval.denominator
  · exact ⟨n / unit * unit, Nat.dvd_mul_left .., contains_of_lt inside (by omega)⟩
  · have more : n < (n / unit + 1) * unit := by
      rw [Nat.mul_comm]
      exact Nat.lt_mul_div_succ n filled
    have most : n * interval.denominator < (n / unit + 1) * unit * interval.denominator :=
      Nat.mul_lt_mul_of_pos_right more surrounds.unit
    refine ⟨(n / unit + 1) * unit, Nat.dvd_mul_left .., contains_of_lt (by omega) ?_⟩
    rw [Nat.add_mul, Nat.one_mul, Nat.add_mul]
    omega

end Surrounds
end Interval

/-! The ends of the interval over the unit of the mantissa, which is a power of two or the part of one. -/

/-- How far the lower end is from the value, in quarters of the unit. -/
def stepBelow (mantissa : Nat) : Nat := if mantissa = 2 ^ 52 then 1 else 2

theorem stepBelow_bounds (mantissa : Nat) : 1 ≤ stepBelow mantissa ∧ stepBelow mantissa ≤ 2 := by
  unfold stepBelow
  split <;> decide

theorem stepBelow_of_ne (other : mantissa ≠ 2 ^ 52) : stepBelow mantissa = 2 := if_neg other

/-- Whether an integer is in the interval, told over a quarter of the unit of the mantissa. -/
theorem contains_iff : (Interval.around mantissa exponent).contains n = true ↔
    (4 * mantissa - stepBelow mantissa) * 2 ^ exponent.toNat ≤ 4 * (n * 2 ^ (-exponent).toNat) ∧
      4 * (n * 2 ^ (-exponent).toNat) ≤ (4 * mantissa + 2) * 2 ^ exponent.toNat ∧
      (mantissa % 2 = 1 →
        (4 * mantissa - stepBelow mantissa) * 2 ^ exponent.toNat < 4 * (n * 2 ^ (-exponent).toNat) ∧
        4 * (n * 2 ^ (-exponent).toNat) < (4 * mantissa + 2) * 2 ^ exponent.toNat) := by
  obtain ⟨scale, filled, up, down⟩ : ∃ scale, 0 < scale ∧ 2 ^ (exponent - 2).toNat * scale = 2 ^ exponent.toNat ∧
      2 ^ (2 - exponent).toNat * scale = 4 * 2 ^ (-exponent).toNat := by
    refine ⟨2 ^ (exponent.toNat - (exponent - 2).toNat), by positivity, ?_, ?_⟩
    · rw [← Nat.pow_add]
      congr 1
      omega
    · have four : 4 * 2 ^ (-exponent).toNat = 2 ^ ((-exponent).toNat + 2) := by ring
      rw [four, ← Nat.pow_add]
      congr 1
      omega
  have ends (count : Nat) : count * 2 ^ exponent.toNat = count * 2 ^ (exponent - 2).toNat * scale := by
    rw [Nat.mul_assoc, up]
  have point : 4 * (n * 2 ^ (-exponent).toNat) = n * 2 ^ (2 - exponent).toNat * scale := by
    rw [Nat.mul_assoc, down]
    ring
  rw [ends, ends, point, Nat.mul_le_mul_right_iff filled, Nat.mul_le_mul_right_iff filled,
    Nat.mul_lt_mul_right filled, Nat.mul_lt_mul_right filled]
  rw [Interval.contains]
  split
  next closed =>
    have even : mantissa % 2 = 0 := of_decide_eq_true closed
    rw [decide_eq_true_eq]
    exact ⟨fun inside => ⟨inside.1, inside.2, by omega⟩, fun inside => ⟨inside.1, inside.2.1⟩⟩
  next opened =>
    have odd : mantissa % 2 = 1 := by
      have uneven : ¬ mantissa % 2 = 0 := fun even => opened (decide_eq_true even)
      omega
    rw [decide_eq_true_eq]
    exact ⟨fun inside => ⟨inside.1.le, inside.2.le, fun _ => inside⟩, fun inside => inside.2.2 odd⟩

section Around

variable (canonical : Canonical mantissa exponent) (positive : 0 < mantissa) (amounts : Amounts mantissa exponent n)
include canonical positive amounts

theorem surrounds_around : (Interval.around mantissa exponent).Surrounds n := by
  have long := canonical.long amounts positive
  have scale : 0 < 2 ^ (exponent - 2).toNat := by positivity
  have shift : (((exponent - 2).toNat + 2 : Nat) : Int) - (2 - exponent).toNat = exponent := by omega
  have measured := (Double.amounts_iff shift).mp amounts
  constructor
  · change 4 * mantissa * 2 ^ (exponent - 2).toNat = n * 2 ^ (2 - exponent).toNat
    rw [← measured]
    ring
  · exact Nat.pow_pos (by decide)
  · refine Nat.mul_lt_mul_of_pos_right ?_ scale
    split <;> omega
  · exact Nat.mul_lt_mul_of_pos_right (by omega) scale

end Around

/-- What is near a mantissa, counted in its unit, is between the ends of its interval. -/
theorem between_of_near {bits unit : Nat} (long : 2 ^ 52 ≤ mantissa) (least : 2 ^ 52 * unit ≤ bits)
    (near : 2 * bits ≤ 2 * (mantissa * unit) + unit ∧ 2 * (mantissa * unit) ≤ 2 * bits + unit ∧
      (mantissa % 2 = 1 → 2 * bits < 2 * (mantissa * unit) + unit ∧ 2 * (mantissa * unit) < 2 * bits + unit)) :
    (4 * mantissa - stepBelow mantissa) * unit ≤ 4 * bits ∧ 4 * bits ≤ (4 * mantissa + 2) * unit ∧
      (mantissa % 2 = 1 → (4 * mantissa - stepBelow mantissa) * unit < 4 * bits ∧
        4 * bits < (4 * mantissa + 2) * unit) := by
  rw [Nat.sub_mul, Nat.add_mul, Nat.mul_assoc]
  by_cases lowest : mantissa = 2 ^ 52
  · subst mantissa
    refine ⟨?_, ?_, nofun⟩ <;> omega
  · rw [stepBelow_of_ne lowest]
    have wide : 2 * unit ≤ 4 * (mantissa * unit) := by
      rw [← Nat.mul_assoc]
      exact Nat.mul_le_mul_right _ (by omega)
    omega

/-- The double nearest to a positive integer has it in its interval. -/
theorem contains_round (positive : 0 < n) : ∃ mantissa exponent positive,
    UnpackedFloat.round Format.binary64 .positive n 0 = .finite .positive mantissa exponent positive ∧
      mantissa < 2 ^ 53 ∧ 2 ^ 52 ≤ mantissa ∧ (Interval.around mantissa exponent).contains n = true := by
  obtain ⟨down, shift⟩ : ∃ down, down = 52 - n.log2 := ⟨_, rfl⟩
  have long : 2 ^ 52 ≤ n * 2 ^ down := Double.le_mul_pow positive (by omega)
  have log := Double.log2_mul_pow positive down
  obtain ⟨unit, whole⟩ : ∃ unit, unit = 2 ^ ((n * 2 ^ down).log2 - 52) := ⟨_, rfl⟩
  obtain ⟨low, high⟩ := Double.rounded_bounds long
  have near := Double.rounded_near (n * 2 ^ down) whole
  have least : 2 ^ 52 * unit ≤ n * 2 ^ down := by
    rw [whole, ← Nat.pow_add, ← Nat.le_log2 (by positivity)]
    omega
  have most : n * 2 ^ down < 2 ^ 53 * unit := by
    rw [whole, ← Nat.pow_add, ← Nat.log2_lt (by positivity)]
    omega
  rw [Double.round_eq .positive n 0 (show down = _ by omega)]
  obtain ⟨_, _, result⟩ := Double.roundWithAccuracy_long .positive long
    (show -1022 ≤ ((n * 2 ^ down).log2 : Int) + (0 - down) by omega)
  rw [result]
  by_cases carried : Double.rounded (n * 2 ^ down) = 2 ^ 53
  · rw [if_pos carried]
    rw [carried] at near
    -- an integer of fewer than 53 bits is not rounded up
    have none : down = 0 := by
      by_contra few
      have single : (n * 2 ^ down).log2 - 52 = 0 := by omega
      rw [single, Nat.pow_zero] at whole
      omega
    have scale : 2 ^ ((n * 2 ^ down).log2 + (0 - (down : Int)) - 51).toNat = 2 * unit := by
      rw [whole, ← Nat.pow_succ']
      congr 1
      omega
    have fraction : 2 ^ (-((n * 2 ^ down).log2 + (0 - (down : Int)) - 51)).toNat = 2 ^ down := by
      congr 1
      omega
    have lowest : stepBelow (2 ^ 52) = 1 := if_pos rfl
    refine ⟨_, _, _, rfl, by decide, le_rfl, contains_iff.mpr ⟨?_, ?_, nofun⟩⟩
    · rw [scale, fraction, lowest]
      omega
    · rw [scale, fraction]
      omega
  · rw [if_neg carried]
    have scale : 2 ^ ((n * 2 ^ down).log2 + (0 - (down : Int)) - 52).toNat = unit := by
      rw [whole]
      congr 1
      omega
    have fraction : 2 ^ (-((n * 2 ^ down).log2 + (0 - (down : Int)) - 52)).toNat = 2 ^ down := by
      congr 1
      omega
    refine ⟨_, _, _, rfl, by omega, low, contains_iff.mpr ?_⟩
    rw [scale, fraction]
    exact between_of_near low least near

/-! Intervals have no common integers: the ends of two neighbours may meet, but then one of them is open. -/

theorem not_contains_of_exponent_lt {mantissa' : Nat} {exponent' : Int} (bits : mantissa < 2 ^ 53)
    (long' : 2 ^ 52 ≤ mantissa') (less : exponent < exponent')
    (inside : (Interval.around mantissa exponent).contains n = true) :
    (Interval.around mantissa' exponent').contains n = false := by
  rw [← Bool.not_eq_true]
  intro inside'
  obtain ⟨_, high, odd⟩ := contains_iff.mp inside
  obtain ⟨low, _, _⟩ := contains_iff.mp inside'
  have scale : 0 < 2 ^ exponent.toNat := by positivity
  have rest : 0 < 2 ^ (-exponent').toNat := by positivity
  have below : 4 * (n * 2 ^ (-exponent).toNat) < (2 ^ 55 - 2) * 2 ^ exponent.toNat := by
    by_cases most : mantissa = 2 ^ 53 - 1
    · subst mantissa
      exact (odd (by decide)).2
    · exact high.trans_lt (Nat.mul_lt_mul_of_pos_right (by omega) scale)
  -- only the least mantissa has its lower end this near
  have above : (2 ^ 54 - 1) * 2 ^ exponent'.toNat ≤ 4 * (n * 2 ^ (-exponent').toNat) := by
    refine (Nat.mul_le_mul_right _ ?_).trans low
    rw [stepBelow]
    split <;> omega
  have twice : 2 * (2 ^ exponent.toNat * 2 ^ (-exponent').toNat) ≤ 2 ^ exponent'.toNat * 2 ^ (-exponent).toNat := by
    rw [← Nat.pow_add, ← Nat.pow_add, ← Nat.pow_succ']
    exact Nat.pow_le_pow_right (by decide) (by omega)
  apply Nat.lt_irrefl (4 * (n * 2 ^ (-exponent).toNat) * 2 ^ (-exponent').toNat)
  calc
    4 * (n * 2 ^ (-exponent).toNat) * 2 ^ (-exponent').toNat
    _ < (2 ^ 55 - 2) * 2 ^ exponent.toNat * 2 ^ (-exponent').toNat := Nat.mul_lt_mul_of_pos_right below rest
    _ = (2 ^ 54 - 1) * (2 * (2 ^ exponent.toNat * 2 ^ (-exponent').toNat)) := by ring
    _ ≤ (2 ^ 54 - 1) * (2 ^ exponent'.toNat * 2 ^ (-exponent).toNat) := Nat.mul_le_mul_left _ twice
    _ = (2 ^ 54 - 1) * 2 ^ exponent'.toNat * 2 ^ (-exponent).toNat := by ring
    _ ≤ 4 * (n * 2 ^ (-exponent').toNat) * 2 ^ (-exponent).toNat := Nat.mul_le_mul_right _ above
    _ = 4 * (n * 2 ^ (-exponent).toNat) * 2 ^ (-exponent').toNat := by ring

theorem not_contains_of_mantissa_lt {mantissa' : Nat} (long : 2 ^ 52 ≤ mantissa) (less : mantissa < mantissa')
    (inside : (Interval.around mantissa exponent).contains n = true) :
    (Interval.around mantissa' exponent).contains n = false := by
  rw [← Bool.not_eq_true]
  intro inside'
  obtain ⟨_, high, odd⟩ := contains_iff.mp inside
  obtain ⟨low, _, odd'⟩ := contains_iff.mp inside'
  have scale : 0 < 2 ^ exponent.toNat := by positivity
  rw [stepBelow_of_ne (by omega)] at low odd'
  have order : (4 * mantissa + 2) * 2 ^ exponent.toNat ≤ (4 * mantissa' - 2) * 2 ^ exponent.toNat :=
    Nat.mul_le_mul_right _ (by omega)
  rcases Nat.mod_two_eq_zero_or_one mantissa with even | uneven
  · rcases Nat.mod_two_eq_zero_or_one mantissa' with even' | uneven'
    · have apart : (4 * mantissa + 2) * 2 ^ exponent.toNat < (4 * mantissa' - 2) * 2 ^ exponent.toNat :=
        Nat.mul_lt_mul_of_pos_right (by omega) scale
      omega
    · have strict := (odd' uneven').1
      omega
  · have strict := (odd uneven).2
    omega

theorem eq_of_contains {mantissa' : Nat} {exponent' : Int} (bits : mantissa < 2 ^ 53) (long : 2 ^ 52 ≤ mantissa)
    (bits' : mantissa' < 2 ^ 53) (long' : 2 ^ 52 ≤ mantissa')
    (inside : (Interval.around mantissa exponent).contains n = true)
    (inside' : (Interval.around mantissa' exponent').contains n = true) :
    mantissa = mantissa' ∧ exponent = exponent' := by
  rcases Int.lt_trichotomy exponent exponent' with less | rfl | more
  · rw [not_contains_of_exponent_lt bits long' less inside] at inside'
    cases inside'
  · refine ⟨?_, rfl⟩
    rcases Nat.lt_trichotomy mantissa mantissa' with less | same | more
    · rw [not_contains_of_mantissa_lt long less inside] at inside'
      cases inside'
    · exact same
    · rw [not_contains_of_mantissa_lt long' more inside'] at inside
      cases inside
  · rw [not_contains_of_exponent_lt bits' long more inside'] at inside
    cases inside

/-- The integers whose nearest double has the size of the value. -/
def Names (value : Float) (n : Nat) : Prop :=
  UnpackedFloat.round Format.binary64 .positive n 0 = (parts value).abs

theorem names_iff {sign : Sign} {positive : 0 < mantissa} (canonical : Canonical mantissa exponent)
    (long : 2 ^ 52 ≤ mantissa) (found : parts value = .finite sign mantissa exponent positive) :
    Names value n ↔ (Interval.around mantissa exponent).contains n = true := by
  rw [Names, found]
  rcases Nat.eq_zero_or_pos n with rfl | some_
  · have none : UnpackedFloat.round Format.binary64 .positive 0 0 = .zero .positive := by rfl
    rw [none]
    apply iff_of_false nofun
    rw [contains_iff]
    have scale : 0 < (4 * mantissa - stepBelow mantissa) * 2 ^ exponent.toNat :=
      Nat.mul_pos (by have step := stepBelow_bounds mantissa; omega) (by positivity)
    omega
  · obtain ⟨mantissa', exponent', positive', rounded, bits, full, inside⟩ := contains_round some_
    rw [rounded]
    constructor
    · intro same
      obtain ⟨-, rfl, rfl⟩ := UnpackedFloat.finite.inj same
      exact inside
    · intro inside'
      obtain ⟨rfl, rfl⟩ := eq_of_contains bits full canonical.bits long inside inside'
      rfl

end NumberPattern.Decimal
