import NumberPattern.Proofs.Decimal.Shortest
import NumberPattern.Proofs.Run.Minus

/-! Ordinals beside an integer without decimals. The suffix is that of the rounded value, taken as a number of
64 bits, and the digits are those of its shortest text: they belong together as long as the shortest text is
exact. -/

namespace NumberPattern
open Lexicon (standard)
open Double (whole?)

/-- The suffix of a whole number within the bounds. -/
theorem Action.ordinal_perform {setting : Setting} {cell : Nat} {run : Run} {n : Int}
    (whole : whole? (setting.rounding run.value) = some n) (least : -2 ^ 63 ≤ n) (less : n < 2 ^ 63)
    (inside : cell < run.cells.texts.length) :
    (Action.ordinal.perform setting cell run).cells.text? cell = some (setting.locale.ordinal.suffix n) := by
  have number : Double.clampedInt (-0x8000000000000000) 0x7fffffffffffffff (setting.rounding run.value) = n :=
    Double.clampedInt_of_whole whole least (by omega)
  simp only [Action.perform, Action.writeOrdinal, number]
  exact Cells.text?_write_self inside

namespace Plan

variable {unclaimed : Unclaimed} {serial : Nat} {pattern : String} {claims : List Claim} {tally : Tally}
  {plan : Plan} {value : Float} {rounding : Float → Float} {locale : Locale} {n : Int}

/-- Without decimals there are no fragments. -/
theorem places_of_integral (compiled : compile (standard unclaimed) serial pattern = .ok plan)
    (integral : plan.has .decimals = false) : plan.precision.places = none := by
  obtain ⟨claims, scanned, rfl⟩ := compile_eq_ok_iff.mp compiled
  obtain ⟨tally, progress, _⟩ := Scan.scan_eq_ok_iff.mp scanned
  have bare : claims.filterMap (·.step.fragment) = [] := by
    rw [List.filterMap_eq_nil_iff]
    intro claim member
    obtain ⟨cell, inside, rfl⟩ := List.getElem_of_mem member
    rw [(progress.shape _ member).fragment]
    cases action : claims[cell].step.action with
    | decimals places optional =>
      obtain ⟨item, member, _, same⟩ := exists_mem_program serial progress inside
      have claimed : (ofClaims (standard unclaimed) serial pattern claims).has .decimals = true :=
        (has_iff steps_ofClaims).mpr ⟨item, member, by rw [same, action]; rfl⟩
      cases claimed.symm.trans integral
    | _ => rfl
  change (precisionOf claims).places = none
  rw [precisionOf, bare]
  rfl

/-- What the cells of ordinals and of the integer show of a rounded value that is the whole number `n`. -/
structure OrdinalRendering (plan : Plan) (value : Float) (rounding : Float → Float) (locale : Locale) (n : Int) :
    Prop where
  suffix : ∀ step cell, (step, cell) ∈ plan.program → step.action = .ordinal → -2 ^ 63 ≤ n → n < 2 ^ 63 →
    (plan.finish value rounding locale).cells.text? cell = some (locale.ordinal.suffix n)
  text : ∀ before step cell after, plan.program = before ++ (step, cell) :: after → step.action = .integer →
    (plan.runAfter value rounding locale (before ++ [(step, cell)])).cells.text? cell =
      some (Decimal.shortest (rounding (plan.scaled value rounding locale).value + 0.0))
  /-- From the bound on, the shortest text may be that of another integer. -/
  digits : n.natAbs < 2 ^ 54 + 8 →
    Decimal.shortest (rounding (plan.scaled value rounding locale).value + 0.0) = toString n

theorem Regular.ordinal_finish (regular : plan.Regular) {step : PlannedStep} {cell : Nat}
    (member : (step, cell) ∈ plan.program) (action : step.action = .ordinal)
    (whole : whole? (rounding (plan.scaled value rounding locale).value) = some n) (least : -2 ^ 63 ≤ n)
    (less : n < 2 ^ 63) :
    (plan.finish value rounding locale).cells.text? cell = some (locale.ordinal.suffix n) := by
  obtain ⟨before, after, order⟩ := List.append_of_mem member
  have number := (regular.value_after value rounding locale order
    (regular.unscaled order (by rw [action]; rfl))).1
  rw [regular.settled_finish value rounding locale order (by rw [action]; rfl), regular.runAfter_concat order,
    action]
  rw [← number] at whole
  exact Action.ordinal_perform whole least less (regular.cell_inside order)

/-- The suffix of an ordinal is that of the rounded value, and as long as the shortest text of a double is
exact it stands beside the digits of the same integer. -/
theorem ordinal_rendering (unclaimed : Unclaimed) (serial : Nat) (pattern : String) (plan : Plan)
    (compiled : compile (standard unclaimed) serial pattern = .ok plan) (integral : plan.has .decimals = false)
    (value : Float) (rounding : Float → Float) (known : rounding ∈ Double.roundings) (locale : Locale)
    (finite : (plan.scaled value rounding locale).value.isFinite = true) :
    ∃ n, whole? (rounding (plan.scaled value rounding locale).value) = some n ∧
      OrdinalRendering plan value rounding locale n := by
  have regular := regular_of_compile compiled
  obtain ⟨n, whole⟩ := Double.whole?_rounding known finite
  refine ⟨n, whole, ?_, ?_, Decimal.shortest_of_whole whole⟩
  · intro step cell member action least less
    exact regular.ordinal_finish member action whole least less
  · intro before step cell after order action
    rw [regular.integer_written value rounding locale order action, Amount.integerText, Plan.setting,
      places_of_integral compiled integral]

/-- An integer with its ordinal. -/
def ordinalPlan : Plan :=
  { pattern := "0o"
    steps := [⟨.integer, Weight.integer, ⟨7⟩⟩, ⟨.ordinal, Weight.integer, ⟨8⟩⟩]
    precision := {}
    layout := ⟨[0, 1], [(⟨7⟩, 0), (⟨8⟩, 1)], [(.integer, 0), (.ordinal, 1)]⟩ }

theorem compile_ordinalPlan : compile (standard .echo) 0 "0o" = .ok ordinalPlan := rfl

/-- The second after twenty. -/
theorem ordinal_rendering_second : OrdinalRendering ordinalPlan 21.5 roundHalfUp {} 22 := by
  have known : roundHalfUp ∈ Double.roundings := by simp [Double.roundings]
  obtain ⟨n, whole, rendering⟩ := ordinal_rendering .echo 0 "0o" ordinalPlan compile_ordinalPlan rfl 21.5
    roundHalfUp known {} (by decide +kernel)
  have rounded : whole? (roundHalfUp (ordinalPlan.scaled 21.5 roundHalfUp {}).value) = some 22 := by
    decide +kernel
  obtain rfl : n = 22 := Option.some.inj (whole.symm.trans rounded)
  exact rendering

/-- The bound is the first integer whose digits are not shown: the digits are those of an integer two below
it, and the suffix is its own. -/
theorem ordinal_beside_other_digits : ¬ ∀ (unclaimed : Unclaimed) (serial : Nat) (pattern : String) (plan : Plan),
    compile (standard unclaimed) serial pattern = .ok plan → plan.has .decimals = false →
    ∀ (value : Float) (rounding : Float → Float) (locale : Locale), rounding ∈ Double.roundings →
    (plan.scaled value rounding locale).value.isFinite = true →
    ∀ before item after shown, plan.program = before ++ item :: after → item.1.action = .integer →
    (plan.runAfter value rounding locale (before ++ [item])).cells.text? item.2 = some (toString (shown : Int)) →
    ∀ step cell, (step, cell) ∈ plan.program → step.action = .ordinal →
    (plan.finish value rounding locale).cells.text? cell = some (locale.ordinal.suffix shown) := by
  intro belongs
  have known : roundHalfUp ∈ Double.roundings := by simp [Double.roundings]
  have digits : (ordinalPlan.runAfter 18014398509481992.0 roundHalfUp {}
      [(⟨.integer, Weight.integer, ⟨7⟩⟩, 0)]).cells.text? 0 = some (toString (18014398509481990 : Int)) := by
    decide +kernel
  have suffix := belongs .echo 0 "0o" ordinalPlan compile_ordinalPlan rfl 18014398509481992.0 roundHalfUp {} known
    (by decide +kernel) [] (⟨.integer, Weight.integer, ⟨7⟩⟩, 0) [(⟨.ordinal, Weight.integer, ⟨8⟩⟩, 1)]
    18014398509481990 rfl rfl digits ⟨.ordinal, Weight.integer, ⟨8⟩⟩ 1 (by simp [ordinalPlan, program]) rfl
  revert suffix
  decide +kernel

end Plan

end NumberPattern
