import Mathlib.Order.Bounds.Basic
import NumberPattern.Proofs.Double.Ranking
import NumberPattern.Scale

/-! The units and magnitudes that a value is scaled to. Each table is searched for the first bound that is
above the size; as every range begins where the one before it ends, the entry found is the last one that
the size reaches. -/

namespace NumberPattern
open Double

/-- Where an entry is reached by all that the range before it does not hold, the first range to hold
something is one that it reaches. -/
theorem reached_of_find? {α : Type} {table : List α} {holds : α → Bool} {item : α} (reached : α → Prop)
    (first : ∀ item ∈ table.head?, reached item)
    (next : table.IsChain fun item next => holds item = false → reached next)
    (found : table.find? holds = some item) : reached item := by
  induction table with
  | nil => cases found
  | cons head table ih =>
    cases inside : holds head with
    | true =>
      rw [List.find?_cons_of_pos inside] at found
      obtain rfl := Option.some.inj found
      exact first head rfl
    | false =>
      rw [List.find?_cons_of_neg (by simp [inside])] at found
      cases table with
      | nil => cases found
      | cons other table =>
        obtain ⟨reaches, next⟩ := List.isChain_cons_cons.mp next
        refine ih ?_ next found
        rintro _ ⟨⟩
        exact reaches inside

variable {size : Float}

theorem isNaN_of_lt {bound : Float} (below : size < bound) : size.isNaN = false := by
  rw [← Bool.not_eq_true]
  exact fun invalid => not_lt_of_isNaN invalid below

namespace Magnitude

theorem mem_all (magnitude : Magnitude) : magnitude ∈ all := by cases magnitude <;> decide

/-- Each range ends where the next one begins. -/
theorem upperBound_chain : all.IsChain fun magnitude next => magnitude.upperBound = next.divisor :=
  .cons_cons rfl (.cons_cons rfl (.cons_cons rfl (.singleton _)))

/-- A range ends before any larger magnitude. -/
theorem upperBound_spec : ∀ magnitude ∈ all, magnitude.upperBound.isNaN = false ∧
    ∀ other ∈ all, magnitude.divisor < other.divisor → magnitude.upperBound ≤ other.divisor := by decide +kernel

variable {magnitude : Magnitude}

theorem exists_fitting (finite : size.isFinite = true) (enough : ¬ size < 1000.0) :
    ∃ magnitude, fitting? size = some magnitude := by
  have least : thousand.divisor ≤ size := le_of_not_lt (isNaN_of_isFinite finite) (by decide +kernel) enough
  have held : (all.find? fun magnitude => size < magnitude.upperBound).isSome = true :=
    List.find?_isSome.mpr ⟨trillion, mem_all _, decide_eq_true (lt_infinity finite)⟩
  rw [fitting?, if_pos least]
  exact Option.isSome_iff_exists.mp held

/-- The magnitude that fits is the largest whose divisor the size reaches. -/
theorem fitting_spec (found : fitting? size = some magnitude) :
    magnitude.divisor ≤ size ∧
      ∀ other : Magnitude, magnitude.divisor < other.divisor → ¬ other.divisor ≤ size := by
  unfold fitting? at found
  split at found
  next least =>
    have below := List.find?_some found
    rw [decide_eq_true_eq] at below
    constructor
    · have first : ∀ item ∈ all.head?, item.divisor ≤ size := by
        intro item head
        obtain rfl : thousand = item := Option.some.inj head
        exact least
      have next : all.IsChain fun item next =>
          decide (size < item.upperBound) = false → next.divisor ≤ size := by
        refine upperBound_chain.imp fun item next ends outside => ?_
        rw [← ends]
        exact le_of_not_lt (isNaN_of_lt below) (upperBound_spec _ (mem_all _)).1 (of_decide_eq_false outside)
      exact reached_of_find? (fun item : Magnitude => item.divisor ≤ size) first next found
    · intro other larger reached
      have ends := (upperBound_spec magnitude (mem_all _)).2 other (mem_all _) larger
      exact not_le_of_lt (lt_of_lt_of_le below ends) reached
  next => cases found

end Magnitude

namespace Scale

variable {setting : Setting} {cell power : Nat} {unit : String} {run : Run} {choice other : Abbreviation}
  {magnitude : Magnitude}

/-- Each unit ends where the next one begins. -/
theorem byteBound_of_lt (another : power < 8) : byteBound power = Double.power 1024.0 (power + 1) :=
  if_neg fun last => absurd (Nat.succ.inj last) another.ne

theorem byteUnits_chain : byteUnits.zipIdx.IsChain fun unit next => unit.2 < 8 ∧ next.2 = unit.2 + 1 := by
  decide

/-- A unit ends before any higher power. -/
theorem byteBound_spec : ∀ low ≤ 8, (byteBound low).isNaN = false ∧
    ∀ high ≤ 8, low < high → byteBound low ≤ Double.power 1024.0 high := by
  decide +kernel

theorem exists_byteUnit (finite : size.isFinite = true) :
    ∃ unit power, byteUnit? size = some (unit, power) := by
  have held : (byteUnit? size).isSome = true :=
    List.find?_isSome.mpr ⟨("YB", 8), by decide, decide_eq_true (lt_infinity finite)⟩
  obtain ⟨⟨unit, power⟩, found⟩ := Option.isSome_iff_exists.mp held
  exact ⟨unit, power, found⟩

/-- The powers of 1024 that have a unit and that the size reaches. -/
def powersWithin (size : Float) : Set Nat :=
  {power | power ≤ 8 ∧ (power = 0 ∨ Double.power 1024.0 power ≤ size)}

theorem byteUnit?_spec (found : byteUnit? size = some (unit, power)) :
    byteUnits[power]? = some unit ∧ IsGreatest (powersWithin size) power := by
  have below := List.find?_some found
  rw [decide_eq_true_eq] at below
  have named : byteUnits[power]? = some unit :=
    List.mk_mem_zipIdx_iff_getElem?.mp (List.mem_of_find?_eq_some found)
  have most : power ≤ 8 := Nat.le_of_lt_succ (List.getElem?_eq_some_iff.mp named).1
  refine ⟨named, ⟨most, ?_⟩, ?_⟩
  · refine reached_of_find? (fun unit : String × Nat => unit.2 = 0 ∨ Double.power 1024.0 unit.2 ≤ size)
      ?_ ?_ found
    · rintro _ ⟨⟩
      exact Or.inl rfl
    · refine byteUnits_chain.imp fun unit next ⟨another, follows⟩ outside => Or.inr ?_
      rw [follows, ← byteBound_of_lt another]
      exact le_of_not_lt (isNaN_of_lt below) (byteBound_spec _ another.le).1 (of_decide_eq_false outside)
  · rintro high ⟨inside, rfl | reached⟩
    · exact Nat.zero_le _
    · by_contra larger
      have ends := (byteBound_spec power most).2 high inside (Nat.lt_of_not_le larger)
      exact not_le_of_lt (lt_of_lt_of_le below ends) reached

theorem abbreviate_of_none (none : choice.choose run.value.abs = none) :
    abbreviate choice setting cell run = run := by rw [abbreviate, none]

theorem abbreviate_of_some (found : choice.choose run.value.abs = some magnitude) :
    abbreviate choice setting cell run =
      (run.write cell (setting.locale.words.word magnitude)).rescale (run.value / magnitude.divisor) := by
  rw [abbreviate, found]

theorem abbreviate_congr (same : choice.choose run.value.abs = other.choose run.value.abs) :
    abbreviate choice setting cell run = abbreviate other setting cell run := by
  rw [abbreviate, abbreviate, same]

theorem byteUnit_of_none (none : byteUnit? run.value.abs = none) : byteUnit setting cell run = run := by
  rw [byteUnit, none]

theorem byteUnit_of_some (found : byteUnit? run.value.abs = some (unit, power)) :
    byteUnit setting cell run = (run.write cell unit).rescale (run.value / Double.power 1024.0 power) := by
  rw [byteUnit, found]

/-- The units that the steps find for the value of a run. -/
structure Selection (setting : Setting) (cell : Nat) (run : Run) : Prop where
  /-- A size is written in the last of the units that it reaches. -/
  bytes : run.value.isFinite = true → ∃ power unit, IsGreatest (powersWithin run.value.abs) power ∧
    byteUnits[power]? = some unit ∧
    byteUnit setting cell run = (run.write cell unit).rescale (run.value / Double.power 1024.0 power)
  small : run.value.isFinite = true → run.value.abs < 1000.0 → abbreviate .bestFit setting cell run = run
  /-- The best fit is the largest magnitude that can be asked for with an effect. -/
  large : run.value.isFinite = true → ¬ run.value.abs < 1000.0 → ∃ magnitude : Magnitude,
    magnitude.divisor ≤ run.value.abs ∧
    abbreviate .bestFit setting cell run = abbreviate (.forced magnitude) setting cell run ∧
    ∀ other : Magnitude, magnitude.divisor < other.divisor →
      ¬ other.divisor ≤ run.value.abs ∧ abbreviate (.forced other) setting cell run = run
  /-- A magnitude that the size reaches is written as a word of the locale, and the value is divided by it. -/
  taken : ∀ magnitude : Magnitude, magnitude.divisor ≤ run.value.abs →
    abbreviate (.forced magnitude) setting cell run =
      (run.write cell (setting.locale.words.word magnitude)).rescale (run.value / magnitude.divisor)
  notANumber : run.value.isNaN = true →
    byteUnit setting cell run = run ∧ ∀ choice, abbreviate choice setting cell run = run
  infinite : run.value.isInf = true →
    byteUnit setting cell run = run ∧ abbreviate .bestFit setting cell run = run

/-- Every value is scaled to the largest unit that it reaches, and a value without one is left as it is. -/
theorem scale_selection :
    (∀ setting cell run, Selection setting cell run) ∧
    (∀ power ≤ 8, whole? (Double.power 1024.0 power) = some (1024 ^ power)) ∧
    Magnitude.all.IsChain fun magnitude next => magnitude.upperBound = next.divisor := by
  refine ⟨fun setting cell run => ⟨?_, ?_, ?_, ?_, ?_, ?_⟩, by decide +kernel, Magnitude.upperBound_chain⟩
  · intro finite
    obtain ⟨unit, power, found⟩ := exists_byteUnit (isFinite_abs.trans finite)
    obtain ⟨named, greatest⟩ := byteUnit?_spec found
    exact ⟨power, unit, greatest, named, byteUnit_of_some found⟩
  · intro finite below
    apply abbreviate_of_none
    exact if_neg (not_le_of_lt below)
  · intro finite enough
    obtain ⟨magnitude, found⟩ := Magnitude.exists_fitting (isFinite_abs.trans finite) enough
    obtain ⟨reached, largest⟩ := Magnitude.fitting_spec found
    refine ⟨magnitude, reached, abbreviate_congr ?_, fun other larger => ⟨largest other larger, ?_⟩⟩
    · exact found.trans (if_pos reached).symm
    · exact abbreviate_of_none (if_neg (largest other larger))
  · intro magnitude reached
    exact abbreviate_of_some (if_pos reached)
  · intro invalid
    have invalid := isNaN_abs.trans invalid
    refine ⟨byteUnit_of_none ?_, fun choice => abbreviate_of_none ?_⟩
    · simp [byteUnit?, List.find?_eq_none, not_lt_of_isNaN invalid]
    · cases choice with
      | bestFit => exact if_neg (not_le_of_isNaN invalid)
      | forced magnitude => exact if_neg (not_le_of_isNaN invalid)
  · intro infinite
    have above (bound : Float) : ¬ run.value.abs < bound := not_abs_lt_of_isInf infinite
    refine ⟨byteUnit_of_none ?_, abbreviate_of_none ?_⟩
    · simp [byteUnit?, List.find?_eq_none, above]
    · simp [Abbreviation.choose, Magnitude.fitting?, List.find?_eq_none, above]

/-- At its bound a value takes the next unit. -/
theorem scale_selection_bound :
    let run := Run.start (-1048576.0) 1
    let setting : Setting := ⟨⟨id, {}, {}⟩, ⟨[0], [], []⟩⟩
    byteUnit setting 0 run = (run.write 0 "MB").rescale (-1048576.0 / Double.power 1024.0 2) ∧
      ∃ magnitude : Magnitude, magnitude.divisor ≤ run.value.abs ∧
        abbreviate .bestFit setting 0 run =
          (run.write 0 (setting.locale.words.word magnitude)).rescale (-1048576.0 / magnitude.divisor) := by
  intro run setting
  have chosen := scale_selection.1 setting 0 run
  obtain ⟨finite, enough, reaches⟩ : run.value.isFinite = true ∧ ¬ run.value.abs < 1000.0 ∧
      ∀ power ≤ 8, Double.power 1024.0 power ≤ run.value.abs ↔ power ≤ 2 := by decide +kernel
  obtain ⟨power, unit, greatest, named, written⟩ := chosen.bytes finite
  obtain ⟨magnitude, reached, same, _⟩ := chosen.large finite enough
  have second : IsGreatest (powersWithin run.value.abs) 2 := by
    refine ⟨⟨by decide, Or.inr ((reaches 2 (by decide)).mpr le_rfl)⟩, ?_⟩
    rintro high ⟨inside, rfl | within⟩
    · exact Nat.zero_le 2
    · exact (reaches high inside).mp within
  obtain rfl := greatest.unique second
  obtain rfl : "MB" = unit := Option.some.inj named
  exact ⟨written, magnitude, reached, same.trans (chosen.taken magnitude reached)⟩

end Scale

end NumberPattern
