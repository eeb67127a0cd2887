import NumberPattern.Proofs.Decimal.Interval
import NumberPattern.Proofs.Decimal.Numeral

/-! The shortest text of a whole number. The grids of the powers of ten are searched from above for one with a
point in the interval of the number, so that the text is that of the number itself just when no other number
of the interval ends in more zeros. -/

namespace NumberPattern.Decimal
open Double (parts whole? Canonical Amounts)
open Float.Model.UnpackedFloat (Sign)

variable {mantissa n units place : Nat} {exponent : Int} {value : Float}

/-- No integer that rounds to the same size ends in more zeros. -/
def Roundest (value : Float) (n : Nat) : Prop :=
  ∀ other, Names value other → ∀ zeros, 10 ^ zeros ∣ other → 10 ^ zeros ∣ n

theorem positional_whole (units place : Nat) : positional units place = digits (units * 10 ^ place) := by
  have none : (-(place : Int)).toNat = 0 := by omega
  simp only [positional, none, fraction_zero, Int.toNat_natCast]
  simp [withoutTrailingZeros, whole]

section Around

variable (canonical : Canonical mantissa exponent) (positive : 0 < mantissa) (amounts : Amounts mantissa exponent n)
include canonical positive amounts

/-- The interval is wider than a unit of the last of seventeen digits. -/
theorem exists_multiple {unit : Nat} (filled : 0 < unit) (few : 10 ^ 16 * unit ≤ n) :
    ∃ other, unit ∣ other ∧ (Interval.around mantissa exponent).contains other = true := by
  have surrounds := surrounds_around canonical positive amounts
  have bits := canonical.bits
  have long := canonical.long amounts positive
  apply surrounds.exists_multiple filled
  have step := stepBelow_bounds mantissa
  have narrow : 4 * mantissa < 10 ^ 16 * (stepBelow mantissa + 2) := by
    unfold stepBelow
    split <;> omega
  have ends : (Interval.around mantissa exponent).low + (stepBelow mantissa + 2) * 2 ^ (exponent - 2).toNat =
      (Interval.around mantissa exponent).high := by
    have low : (Interval.around mantissa exponent).low =
        (4 * mantissa - stepBelow mantissa) * 2 ^ (exponent - 2).toNat := rfl
    have total : 4 * mantissa - stepBelow mantissa + (stepBelow mantissa + 2) = 4 * mantissa + 2 := by omega
    rw [low, ← Nat.add_mul, total]
    rfl
  rw [← ends, Nat.add_lt_add_iff_left]
  apply Nat.lt_of_mul_lt_mul_left (a := 10 ^ 16)
  calc
    10 ^ 16 * (unit * (Interval.around mantissa exponent).denominator)
    _ = 10 ^ 16 * unit * (Interval.around mantissa exponent).denominator := by ring
    _ ≤ n * (Interval.around mantissa exponent).denominator := Nat.mul_le_mul_right _ few
    _ = 4 * mantissa * 2 ^ (exponent - 2).toNat := surrounds.value.symm
    _ < 10 ^ 16 * (stepBelow mantissa + 2) * 2 ^ (exponent - 2).toNat :=
      Nat.mul_lt_mul_of_pos_right narrow (by positivity)
    _ = 10 ^ 16 * ((stepBelow mantissa + 2) * 2 ^ (exponent - 2).toNat) := by ring

/-- One of the grids that are searched has a point. -/
theorem exists_point : ∃ place ≤ (digits n).length, (digits n).length < place + 18 ∧
    ∃ units, ((Interval.around mantissa exponent).inUnits place).nearestWhole? = some units := by
  have surrounds := surrounds_around canonical positive amounts
  by_cases long : (digits n).length ≤ 17
  · obtain ⟨units, found, _⟩ := surrounds.nearestWhole_eq (show 10 ^ 0 ∣ n from Nat.one_dvd n)
    exact ⟨0, Nat.zero_le _, by omega, units, found⟩
  · have least : 10 ^ ((digits n).length - 1) ≤ n := by
      by_contra less
      have few := (Nat.length_toDigits_le_iff (by decide) (by omega)).mpr (Nat.lt_of_not_le less)
      change (digits n).length ≤ _ at few
      omega
    have few : 10 ^ 16 * 10 ^ ((digits n).length - 17) ≤ n := by
      have split : (digits n).length - 1 = 16 + ((digits n).length - 17) := by omega
      rwa [split, Nat.pow_add] at least
    obtain ⟨other, divides, inside⟩ := exists_multiple canonical positive amounts (by positivity) few
    exact ⟨(digits n).length - 17, by omega, by omega, surrounds.exists_nearestWhole divides inside⟩

/-- The shortest text is that of the number when the number is in each grid that has a point. -/
theorem shortestPoint_spec : ∃ units place : Nat, shortestPoint mantissa exponent = (units, (place : Int)) ∧
    (units * 10 ^ place = n ↔ ∀ other, (Interval.around mantissa exponent).contains other = true →
      ∀ zeros, 10 ^ zeros ∣ other → 10 ^ zeros ∣ n) := by
  have surrounds := surrounds_around canonical positive amounts
  have some_ := amounts.pos positive
  obtain ⟨least, few, enough, found⟩ := exists_point canonical positive amounts
  obtain ⟨units, place, point, here, none⟩ := Interval.firstPoint_spec few enough found
  refine ⟨units, place, ?_, ?_, ?_⟩
  · rw [shortestPoint, surrounds.topPlace_eq some_, point]
  · rintro same other inside zeros divides
    -- a grid above all of the digits would have only zero as a point
    have within {zeros : Nat} (few : zeros ≤ (digits n).length) (divides : 10 ^ zeros ∣ other) :
        10 ^ zeros ∣ n := by
      obtain ⟨units', there⟩ := surrounds.exists_nearestWhole divides inside
      have lower : zeros ≤ place := by
        by_contra above
        rw [none zeros (Nat.lt_of_not_le above) few] at there
        cases there
      rw [← same]
      exact (Nat.pow_dvd_pow 10 lower).trans (Nat.dvd_mul_left ..)
    by_cases few : zeros ≤ (digits n).length
    · exact within few divides
    · have all := within (Nat.le_refl _) ((Nat.pow_dvd_pow 10 (Nat.le_of_not_le few)).trans divides)
      have less : n < 10 ^ (digits n).length :=
        (Nat.length_toDigits_le_iff (by decide) Nat.length_toDigits_pos).mp (Nat.le_refl _)
      exact absurd (Nat.le_of_dvd some_ all) (Nat.not_le_of_lt less)
  · intro roundest
    have inside := Interval.contains_of_nearestWhole here
    rw [Interval.contains_inUnits] at inside
    obtain ⟨units', there, same⟩ := surrounds.nearestWhole_eq (roundest _ inside place (Nat.dvd_mul_left ..))
    obtain rfl : units = units' := Option.some.inj (here.symm.trans there)
    exact same

end Around

theorem shortest_finite {sign : Sign} {positive : 0 < mantissa}
    (found : parts value = .finite sign mantissa exponent positive) :
    shortest value = signText sign ++ String.ofList
      (positional (shortestPoint mantissa exponent).1 (shortestPoint mantissa exponent).2) := by
  rw [shortest, found]

/-- The shortest text of a whole number is its numeral just when no number of its interval is rounder. -/
theorem shortest_eq_iff {a : Int} (whole : whole? value = some a) :
    shortest (value + 0.0) = toString a ↔ Roundest value a.natAbs := by
  have sum := Double.parts_add_zero value
  rcases Double.parts_of_whole whole with
    ⟨sign, found, rfl⟩ | ⟨sign, mantissa, exponent, positive, n, found, canonical, amounts, rfl⟩
  · rw [found] at sum
    rw [shortest, sum]
    exact iff_of_true rfl fun _ _ zeros _ => Nat.dvd_zero _
  · obtain ⟨units, place, point, same⟩ := shortestPoint_spec canonical positive amounts
    rw [found] at sum
    rw [shortest_finite sum, point, positional_whole, toString_apply sign (amounts.pos positive),
      signText_digits_inj, and_iff_right rfl, same, Double.natAbs_apply]
    simp only [Roundest, names_iff canonical (canonical.long amounts positive) found]

/-! Numbers of few digits are the roundest of their interval, whatever zeros follow the digits, and so are those
a little beyond the 53 bits of a mantissa. -/

/-- Multiples of a unit that are closer to each other than a unit are the same. -/
theorem eq_of_near {other unit slack : Nat} (divides : unit ∣ n) (divides' : unit ∣ other) (scale : Nat)
    (low : 4 * (n * scale) ≤ 4 * (other * scale) + slack) (high : 4 * (other * scale) ≤ 4 * (n * scale) + slack)
    (fine : slack < 4 * (unit * scale)) : n = other := by
  obtain ⟨count, rfl⟩ := divides
  obtain ⟨count', rfl⟩ := divides'
  have scaled (count : Nat) : unit * count * scale = count * (unit * scale) := by ring
  rw [scaled, scaled] at low high
  rcases Nat.lt_trichotomy count count' with less | rfl | more
  · have steps := Nat.mul_le_mul_right (unit * scale) (Nat.succ_le_of_lt less)
    rw [Nat.succ_mul] at steps
    omega
  · rfl
  · have steps := Nat.mul_le_mul_right (unit * scale) (Nat.succ_le_of_lt more)
    rw [Nat.succ_mul] at steps
    omega

section Few

variable (canonical : Canonical mantissa exponent) (positive : 0 < mantissa) (amounts : Amounts mantissa exponent n)
include canonical positive amounts

/-- The interval holds no other multiple of a unit that the mantissa counts without loss. -/
theorem eq_of_multiple {other unit count : Nat} (inside : (Interval.around mantissa exponent).contains other = true)
    (whole : n = count * unit) (few : count < 2 ^ 53) (divides : unit ∣ other) : n = other := by
  have long := canonical.long amounts positive
  have some_ := amounts.pos positive
  have step := stepBelow_bounds mantissa
  obtain ⟨low, high, _⟩ := contains_iff.mp inside
  rw [Amounts] at amounts
  have fine : 2 * 2 ^ exponent.toNat < 4 * (unit * 2 ^ (-exponent).toNat) := by
    have filled : 0 < unit := by
      rw [whole] at some_
      exact Nat.pos_of_mul_pos_left some_
    apply Nat.lt_of_mul_lt_mul_left (a := 2 ^ 53)
    calc
      2 ^ 53 * (2 * 2 ^ exponent.toNat)
      _ = 4 * (2 ^ 52 * 2 ^ exponent.toNat) := by ring
      _ ≤ 4 * (mantissa * 2 ^ exponent.toNat) := by gcongr
      _ = 4 * (count * unit * 2 ^ (-exponent).toNat) := by rw [amounts, whole]
      _ < 4 * (2 ^ 53 * unit * 2 ^ (-exponent).toNat) := by gcongr
      _ = 2 ^ 53 * (4 * (unit * 2 ^ (-exponent).toNat)) := by ring
  have below : (4 * mantissa - 2) * 2 ^ exponent.toNat ≤ 4 * (other * 2 ^ (-exponent).toNat) :=
    (Nat.mul_le_mul_right _ (by omega)).trans low
  rw [Nat.sub_mul, Nat.mul_assoc, amounts] at below
  rw [Nat.add_mul, Nat.mul_assoc, amounts] at high
  exact eq_of_near (whole ▸ Nat.dvd_mul_left ..) divides _ (by omega) high fine

/-- A little beyond the 53 bits of a mantissa there is still no other multiple of ten. -/
theorem eq_of_ten_dvd {other : Nat} (inside : (Interval.around mantissa exponent).contains other = true)
    (small : n < 2 ^ 54 + 8) (divides : 10 ∣ other) : n = other := by
  have some_ := amounts.pos positive
  by_cases few : n < 2 ^ 53
  · exact eq_of_multiple canonical positive amounts inside (Nat.mul_one n).symm few (Nat.one_dvd other)
  have long := canonical.long amounts positive
  have reached := canonical.exponent_eq amounts positive
  have bits : 53 ≤ n.log2 := (Nat.le_log2 some_.ne').mpr (by omega)
  have bits' : n.log2 < 55 := (Nat.log2_lt some_.ne').mpr (by omega)
  obtain ⟨low, high, odd⟩ := contains_iff.mp inside
  unfold stepBelow at low odd
  obtain rfl | rfl : exponent = 1 ∨ exponent = 2 := by omega
  · change mantissa * 2 ^ 1 = n * 2 ^ 0 at amounts
    change _ * 2 ^ 1 ≤ 4 * (other * 2 ^ 0) at low
    change 4 * (other * 2 ^ 0) ≤ _ * 2 ^ 1 at high
    split at low <;> omega
  · change mantissa * 2 ^ 2 = n * 2 ^ 0 at amounts
    change _ * 2 ^ 2 ≤ 4 * (other * 2 ^ 0) at low
    change 4 * (other * 2 ^ 0) ≤ _ * 2 ^ 2 at high
    change _ → _ ∧ 4 * (other * 2 ^ 0) < _ * 2 ^ 2 at odd
    -- only two numbers below the bound are this far apart
    obtain rfl | rfl : mantissa = 2 ^ 52 ∨ mantissa = 2 ^ 52 + 1 := by omega
    · rw [if_pos rfl] at low
      omega
    · rw [if_neg (by decide)] at low
      omega

end Few

section Whole

variable {a : Int} (whole : whole? value = some a)
include whole

/-- A whole number is the roundest when it is the roundest of its interval. -/
theorem roundest_of_interval (same : ∀ mantissa exponent, 0 < mantissa → Canonical mantissa exponent →
    Amounts mantissa exponent a.natAbs → ∀ other, (Interval.around mantissa exponent).contains other = true →
      ∀ zeros, 10 ^ zeros ∣ other → 10 ^ zeros ∣ a.natAbs) : Roundest value a.natAbs := by
  rcases Double.parts_of_whole whole with
    ⟨sign, found, rfl⟩ | ⟨sign, mantissa, exponent, positive, n, found, canonical, amounts, rfl⟩
  · exact fun _ _ zeros _ => Nat.dvd_zero _
  · rw [Double.natAbs_apply] at same ⊢
    intro other named
    exact same mantissa exponent positive canonical amounts other
      ((names_iff canonical (canonical.long amounts positive) found).mp named)

/-- A number is the roundest when a mantissa can hold its digits without the zeros at their end. -/
theorem roundest_of_few {count zeros : Nat} (split : a.natAbs = count * 10 ^ zeros) (few : count < 2 ^ 53) :
    Roundest value a.natAbs := by
  refine roundest_of_interval whole fun _ _ positive canonical amounts other inside more divides => ?_
  rcases Nat.le_total more zeros with less | many
  · rw [split]
    exact (Nat.pow_dvd_pow 10 less).trans (Nat.dvd_mul_left ..)
  · have same := eq_of_multiple canonical positive amounts inside split few ((Nat.pow_dvd_pow 10 many).trans divides)
    rwa [same]

theorem roundest_of_small (small : a.natAbs < 2 ^ 54 + 8) : Roundest value a.natAbs := by
  refine roundest_of_interval whole fun _ _ positive canonical amounts other inside zeros divides => ?_
  cases zeros with
  | zero => exact Nat.one_dvd _
  | succ zeros =>
    have ten : 10 ∣ other := (Nat.dvd_mul_left 10 _).trans divides
    rwa [eq_of_ten_dvd canonical positive amounts inside small ten]

/-- The shortest text of a whole number below the bound is its numeral. -/
theorem shortest_of_whole (small : a.natAbs < 2 ^ 54 + 8) : shortest (value + 0.0) = toString a :=
  (shortest_eq_iff whole).mpr (roundest_of_small whole small)

end Whole

end NumberPattern.Decimal
