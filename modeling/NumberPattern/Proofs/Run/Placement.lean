import NumberPattern.Proofs.Run.Signs

/-! Where a rendered value shows its sign. The steps run by weight and not in the order of the text; at
the end the tokens of the plan alone decide which of them bears the sign. -/

namespace NumberPattern.Plan
open Lexicon (standard)

/-- Where a run of the plan on a value shows the sign of the number that the value is scaled to. -/
structure Placement (plan : Plan) (value : Float) (rounding : Float → Float) (locale : Locale)
    (number : Float) :
    Prop where
  /-- The steps behind the scaling leave the number as it is. -/
  scaled : ∀ before after, plan.program = before ++ after →
    (∀ item ∈ after, item.1.action.isScale = false) →
    (plan.runAfter value rounding locale before).value = number
  openParen : ∀ step cell, (step, cell) ∈ plan.program → step.action = .openParen →
    (plan.finish value rounding locale).cells.text? cell = if number < 0.0 then some "(" else none
  closeParen : ∀ step cell, (step, cell) ∈ plan.program → step.action = .closeParen →
    (plan.finish value rounding locale).cells.text? cell = if number < 0.0 then some ")" else none
  minus : ∀ step cell, (step, cell) ∈ plan.program → step.action = .minus →
    (plan.finish value rounding locale).cells.text? cell = if number < 0.0 then some "-" else none
  plus : ∀ step cell, (step, cell) ∈ plan.program → step.action = .plus →
    (plan.finish value rounding locale).cells.text? cell = if 0.0 < number then some "+" else none
  currency : ∀ step cell carriesSign, (step, cell) ∈ plan.program → step.action = .currency carriesSign →
    (plan.finish value rounding locale).cells.text? cell =
      some (if number < 0.0 ∧ carriesSign = true ∧ plan.has .closeParen = false ∧
            plan.has .minus = false then
          "-" ++ locale.currency
        else locale.currency)
  /-- A point that is left at the end. -/
  point : ∀ step cell optional text, (step, cell) ∈ plan.program → step.action = .point optional →
    (plan.finish value rounding locale).cells.text? cell = some text →
      text = if number < 0.0 ∧ plan.has .integer = false ∧ plan.has .closeParen = false ∧
          plan.has .minus = false ∧ plan.carriesSign = false then
        "-" ++ locale.point
      else locale.point
  /-- The text of the integer is the one that its step wrote, in groups if the plan asks for them. It
  loses its sign where another token shows it. -/
  integer : ∀ before step cell after, plan.program = before ++ (step, cell) :: after →
    step.action = .integer →
    ∃ text, (plan.runAfter value rounding locale (before ++ [(step, cell)])).cells.text? cell = some text ∧
      text = Amount.integerText (plan.setting rounding locale) number ∧
      (plan.finish value rounding locale).cells.text? cell =
        let shown := if plan.has .grouping = true then Amount.groupThousands locale.group text else text
        some (if number < 0.0 ∧
            (plan.has .closeParen = true ∨ plan.has .minus = true ∨ plan.carriesSign = true) then
            withoutSign shown
          else shown)

variable {plan : Plan} {value remainder : Float} {rounding : Float → Float} {locale : Locale}
  {item : PlannedStep × Nat} {token : Token}

theorem has_currency (carries : plan.carriesSign = true) : plan.has .currency = true := by
  obtain ⟨step, member, carries⟩ := List.any_eq_true.mp carries
  refine List.any_eq_true.mpr ⟨step, member, ?_⟩
  cases action : step.action with
  | currency => rfl
  | _ => rw [action] at carries; cases carries

theorem bearer_congr_has (regular : plan.Regular) :
    plan.bearer value remainder (ran plan.program) = plan.bearer value remainder plan.has :=
  bearer_congr fun token _ => ran_program regular token

section Bearer

variable (regular : plan.Regular) {cell : Nat} (value remainder : Float)
include regular

theorem tokenCell_eq_iff (found : plan.layout.tokenCell? token = some cell) (other : Token) :
    plan.layout.tokenCell? other = some cell ↔ other = token :=
  ⟨fun known => regular.token_of_cell known found, fun same => same ▸ found⟩

theorem bearer_eq_currency (found : plan.layout.tokenCell? .currency = some cell) :
    plan.bearer value remainder plan.has = some cell ↔
      value < 0.0 ∧ plan.carriesSign = true ∧ plan.has .closeParen = false ∧ plan.has .minus = false := by
  have known := tokenCell_eq_iff regular found
  have present : plan.has .currency = true := by rw [← regular.tokenCell_isSome rfl, found]; rfl
  simp only [bearer, apply_ite (· = some cell), known, present]
  cases plan.has .minus <;> cases plan.has .closeParen <;> cases plan.carriesSign <;> simp

theorem bearer_eq_point (found : plan.layout.tokenCell? .point = some cell)
    (written : (plan.optionalPoint && remainder == 0.0) = false) :
    plan.bearer value remainder plan.has = some cell ↔
      value < 0.0 ∧ plan.has .integer = false ∧ plan.has .closeParen = false ∧ plan.has .minus = false ∧
        plan.carriesSign = false := by
  have known := tokenCell_eq_iff regular found
  have present : plan.has .point = true := by rw [← regular.tokenCell_isSome rfl, found]; rfl
  simp only [bearer, apply_ite (· = some cell), known, present, written]
  cases carries : plan.carriesSign with
  | false => cases plan.has .minus <;> cases plan.has .closeParen <;> cases plan.has .integer <;> simp
  | true =>
    rw [has_currency carries]
    cases plan.has .minus <;> cases plan.has .closeParen <;> simp

theorem bearer_eq_integer (found : plan.layout.tokenCell? .integer = some cell) (negative : value < 0.0) :
    plan.bearer value remainder plan.has = some cell ↔
      ¬ (plan.has .closeParen = true ∨ plan.has .minus = true ∨ plan.carriesSign = true) := by
  have known := tokenCell_eq_iff regular found
  have present : plan.has .integer = true := by rw [← regular.tokenCell_isSome rfl, found]; rfl
  simp only [bearer, apply_ite (· = some cell), known, present, negative]
  cases carries : plan.carriesSign with
  | false => cases plan.has .minus <;> cases plan.has .closeParen <;> simp
  | true =>
    rw [has_currency carries]
    cases plan.has .minus <;> cases plan.has .closeParen <;> simp

end Bearer

/-- The integer step writes the digits of the scaled value. -/
theorem Regular.integer_written (regular : plan.Regular) (number : Float) (rounding : Float → Float)
    (locale : Locale) {before after : List (PlannedStep × Nat)}
    (order : plan.program = before ++ item :: after)
    (action : item.1.action = .integer) :
    (plan.runAfter number rounding locale (before ++ [item])).cells.text? item.2 =
      some (Amount.integerText (plan.setting rounding locale)
        (plan.scaled number rounding locale).value) := by
  have unscaled := regular.unscaled order (congrArg Action.isScale action)
  have standing := (regular.signs_after number rounding locale order unscaled).1
  have inside := standing.inside regular (regular.turn order)
  rw [regular.runAfter_concat order, action, Action.perform, Amount.integer_eq, ← standing.scaled]
  exact Cells.text?_write_self inside

section Finish

variable (regular : plan.Regular) (value : Float) (rounding : Float → Float) (locale : Locale)
  {step : PlannedStep} {cell : Nat}
include regular

theorem Regular.signs_finish :
    Standing plan (plan.scaled value rounding locale).value (plan.scaled value rounding locale).remainder
        plan.program (plan.finish value rounding locale) ∧
      Signs plan rounding locale (plan.scaled value rounding locale).value plan.program
        (plan.finish value rounding locale) :=
  regular.signs_after value rounding locale (List.append_nil _).symm (by simp)

theorem Regular.signCell_finish : (plan.finish value rounding locale).signCell =
    plan.bearer (plan.scaled value rounding locale).value (plan.scaled value rounding locale).remainder
      plan.has :=
  (regular.signs_finish value rounding locale).1.bearer.trans (bearer_congr_has regular)

/-- A mark of the sign stands in its cell. -/
theorem Regular.mark_finish (member : (step, cell) ∈ plan.program) (kind : step.action.token? = some token)
    (marks : token.isMark = true) :
    (plan.finish value rounding locale).cells.text? cell =
      token.mark (plan.scaled value rounding locale).value := by
  have standing := (regular.signs_finish value rounding locale).1
  have found := regular.cell _ member token kind (Token.isSingle_of_isMark marks)
  exact standing.mark token cell marks found (ran_program_of_mem member kind)

theorem Regular.currency_finish {carriesSign : Bool} (member : (step, cell) ∈ plan.program)
    (action : step.action = .currency carriesSign) :
    (plan.finish value rounding locale).cells.text? cell =
      some (if (plan.scaled value rounding locale).value < 0.0 ∧ carriesSign = true ∧
            plan.has .closeParen = false ∧ plan.has .minus = false then
          "-" ++ locale.currency
        else locale.currency) := by
  have kind : step.action.token? = some .currency := congrArg Action.token? action
  have found := regular.cell _ member .currency kind rfl
  have bears := bearer_eq_currency regular (plan.scaled value rounding locale).value
    (plan.scaled value rounding locale).remainder found
  rw [← regular.signCell_finish, regular.carriesSign_eq member action] at bears
  rw [← signed_decide, ← decide_eq_decide.mpr bears]
  exact (regular.signs_finish value rounding locale).2.currency cell found (ran_program_of_mem member kind)

theorem Regular.point_finish {optional : Bool} {text : String} (member : (step, cell) ∈ plan.program)
    (action : step.action = .point optional)
    (written : (plan.finish value rounding locale).cells.text? cell = some text) :
    text = if (plan.scaled value rounding locale).value < 0.0 ∧ plan.has .integer = false ∧
          plan.has .closeParen = false ∧ plan.has .minus = false ∧ plan.carriesSign = false then
        "-" ++ locale.point
      else locale.point := by
  obtain ⟨standing, signs⟩ := regular.signs_finish value rounding locale
  have found := regular.cell _ member .point (congrArg Action.token? action) rfl
  have kept : (plan.optionalPoint && (plan.scaled value rounding locale).remainder == 0.0) = false := by
    rw [← Bool.not_eq_true]
    intro left_out
    cases (standing.unwritten cell found left_out).symm.trans written
  have bears := bearer_eq_point regular (plan.scaled value rounding locale).value
    (plan.scaled value rounding locale).remainder found kept
  rw [← regular.signCell_finish] at bears
  rw [← signed_decide, ← decide_eq_decide.mpr bears]
  exact signs.point cell text found written

theorem Regular.integer_finish (member : (step, cell) ∈ plan.program) (action : step.action = .integer) :
    (plan.finish value rounding locale).cells.text? cell =
      let shown := plan.integerText rounding locale (plan.scaled value rounding locale).value
        (plan.has .grouping)
      some (if (plan.scaled value rounding locale).value < 0.0 ∧
          (plan.has .closeParen = true ∨ plan.has .minus = true ∨ plan.carriesSign = true) then
        withoutSign shown
      else shown) := by
  have kind : step.action.token? = some .integer := congrArg Action.token? action
  have found := regular.cell _ member .integer kind rfl
  have bears (negative : (plan.scaled value rounding locale).value < 0.0) :=
    bearer_eq_integer regular _ (plan.scaled value rounding locale).remainder found negative
  rw [← regular.signCell_finish] at bears
  have signs := (regular.signs_finish value rounding locale).2
  apply (signs.integer cell found (ran_program_of_mem member kind)).trans
  rw [ran_program regular]
  by_cases negative : (plan.scaled value rounding locale).value < 0.0
  · simp only [negative, true_and, ne_eq, bears negative, Classical.not_not]
  · simp only [negative, false_and]

end Finish

/-- The tokens of a pattern alone, and not their order in the text, decide where the sign of a value is
shown. -/
theorem sign_placement (unclaimed : Unclaimed) (serial : Nat) (pattern : String) (plan : Plan)
    (compiled : Plan.compile (standard unclaimed) serial pattern = .ok plan) (value : Float)
    (rounding : Float → Float) (locale : Locale) :
    Placement plan value rounding locale (plan.scaled value rounding locale).value := by
  have regular := regular_of_compile compiled
  refine ⟨?_, ?_, ?_, ?_, ?_, ?_, ?_, ?_⟩
  · intro before after order unscaled
    exact (regular.signs_after value rounding locale order unscaled).1.scaled
  · intro step cell member action
    exact regular.mark_finish value rounding locale member (congrArg Action.token? action) rfl
  · intro step cell member action
    exact regular.mark_finish value rounding locale member (congrArg Action.token? action) rfl
  · intro step cell member action
    exact regular.mark_finish value rounding locale member (congrArg Action.token? action) rfl
  · intro step cell member action
    exact regular.mark_finish value rounding locale member (congrArg Action.token? action) rfl
  · intro step cell carriesSign member action
    exact regular.currency_finish value rounding locale member action
  · intro step cell optional text member action written
    exact regular.point_finish value rounding locale member action written
  · intro before step cell after order action
    have member : (step, cell) ∈ plan.program := by simp [order]
    exact ⟨_, regular.integer_written value rounding locale order action, rfl,
      regular.integer_finish value rounding locale member action⟩

/-- A symbol ahead of the integer shows the sign of a negative value, and the integer goes without. -/
theorem sign_placement_symbol :
    ∃ plan, Plan.compile (standard .echo) 0 "$0" = .ok plan ∧
      (plan.finish (-5.0) id {}).cells.text? 0 = some "-$" := by
  let plan : Plan :=
    { pattern := "$0"
      steps := [⟨.integer, Weight.integer, ⟨7⟩⟩, ⟨.currency true, Weight.currency, ⟨14⟩⟩]
      precision := {}
      layout := ⟨[1, 0], [(⟨14⟩, 0), (⟨7⟩, 1)], [(.currency, 0), (.integer, 1)]⟩ }
  have compiled : Plan.compile (standard .echo) 0 "$0" = .ok plan := rfl
  have placement := sign_placement .echo 0 "$0" plan compiled (-5.0) id {}
  have member : (⟨.currency true, Weight.currency, ⟨14⟩⟩, 0) ∈ plan.program := by simp [plan, program]
  have negative : (plan.scaled (-5.0) id {}).value < 0.0 := by
    change (-5.0 : Float) < 0.0
    decide +kernel
  refine ⟨plan, compiled, (placement.currency _ 0 true member rfl).trans ?_⟩
  rw [if_pos ⟨negative, rfl, rfl, rfl⟩]
  rfl

end NumberPattern.Plan
