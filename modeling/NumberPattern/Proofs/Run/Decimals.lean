import NumberPattern.Proofs.Run.Digits
import NumberPattern.Proofs.Run.Placement

/-! The decimals of a rendered value. Integer and decimals come from one rounding of the scaled value;
the point and the decimals are written both or not at all. -/

namespace NumberPattern

namespace Amount

theorem integerFraction_eq {setting : Setting} {places : Nat}
    (precise : setting.precision.places = some places)
    (positive : 0 < places) (value : Float) (before : Option String) :
    integerFraction setting value before = some (split setting.rounding places value).fraction := by
  unfold integerFraction
  rw [precise]
  cases places with
  | zero => exact absurd positive (Nat.lt_irrefl 0)
  | succ places => rfl

theorem integerText_eq {setting : Setting} {places : Nat} (precise : setting.precision.places = some places)
    (positive : 0 < places) (value : Float) :
    integerText setting value = (split setting.rounding places value).whole := by
  unfold integerText
  rw [precise]
  cases places with
  | zero => exact absurd positive (Nat.lt_irrefl 0)
  | succ places => rfl

theorem optionalPoint_point (optional : Bool) (setting : Setting) (cell : Nat) (run : Run) :
    (point optional setting cell run).optionalPoint =
      (run.optionalPoint || (optional && !(run.remainder == 0.0))) := by
  simp only [point, writePoint_eq]
  cases optional with
  | false => simp [Run.write]
  | true => by_cases whole : (run.remainder == 0.0) = true <;> simp [whole, Run.write]

end Amount

namespace Plan
open Lexicon (standard)

/-- The decimals before any are trimmed: those of the integer, or of the remainder if the integer has
none. -/
def fractionText (plan : Plan) (rounding : Float → Float) (places : Nat)
    (value remainder : Float) : String :=
  let joint := (Amount.split rounding places value).fraction
  if plan.has .integer = true ∧ joint ≠ "" then joint else (Amount.split rounding places remainder).fraction

/-- The decimals that a value is rendered with. -/
def decimalText (plan : Plan) (rounding : Float → Float) (places optional : Nat) (value remainder : Float) :
    List Char :=
  Amount.trimZeros optional (plan.fractionText rounding places value remainder).toList

/-- Whether the decimals and their point are rendered at all. -/
def showsDecimals (plan : Plan) (rounding : Float → Float) (places optional : Nat)
    (value remainder : Float) : Bool :=
  let digits := plan.decimalText rounding places optional value remainder
  !(plan.optionalPoint && remainder == 0.0) && !digits.isEmpty &&
    (!plan.optionalPoint || digits.any (· ≠ '0'))

theorem showsDecimals_iff {plan : Plan} {rounding : Float → Float} {places optional : Nat}
    {value remainder : Float} :
    plan.showsDecimals rounding places optional value remainder = true ↔
      (plan.optionalPoint = false ∨ (remainder == 0.0) = false) ∧
      plan.decimalText rounding places optional value remainder ≠ [] ∧
      (plan.optionalPoint = true →
        ∃ c ∈ plan.decimalText rounding places optional value remainder, c ≠ '0') := by
  simp only [showsDecimals, Bool.and_eq_true, Bool.not_eq_true', Bool.and_eq_false_iff, Bool.or_eq_true,
    List.isEmpty_eq_false_iff, List.any_eq_true, decide_eq_true_eq, and_assoc]
  cases plan.optionalPoint <;> simp

theorem isDigit_of_mem_decimalText {plan : Plan} {rounding : Float → Float} {places optional : Nat}
    {value remainder : Float} {c : Char}
    (member : c ∈ plan.decimalText rounding places optional value remainder) : c.isDigit = true := by
  obtain ⟨zeros, _, split, _⟩ :=
    Amount.trimmed_trimZeros optional (plan.fractionText rounding places value remainder).toList
  have whole : c ∈ (plan.fractionText rounding places value remainder).toList := by
    rw [split]
    exact List.mem_append_left _ member
  simp only [fractionText] at whole
  split at whole
  · exact Amount.isDigit_of_mem_fraction whole
  · exact Amount.isDigit_of_mem_fraction whole

/-- What a run has found out about the decimals, which go to the cell, and about the point before
them. -/
structure Decimals (plan : Plan) (rounding : Float → Float) (places optional : Nat)
    (value remainder : Float)
    (pointCell cell : Nat) (done : List (PlannedStep × Nat)) (run : Run) : Prop where
  fraction : run.fraction =
    if ran done .integer = true then some (Amount.split rounding places value).fraction else none
  optionalPoint : run.optionalPoint = (ran done .point && (plan.optionalPoint && !(remainder == 0.0)))
  point : ran done .point = true → ran done .decimals = false →
    run.cells.isFilled pointCell = !(plan.optionalPoint && remainder == 0.0)
  settled : ran done .decimals = true →
    run.cells.isFilled pointCell = plan.showsDecimals rounding places optional value remainder ∧
    run.cells.text? cell =
      if plan.showsDecimals rounding places optional value remainder then
        some (String.ofList (plan.decimalText rounding places optional value remainder))
      else none

variable {plan : Plan} {value remainder : Float} {rounding : Float → Float} {locale : Locale}
  {places optional pointCell cell : Nat} {done : List (PlannedStep × Nat)} {item : PlannedStep × Nat}
  {run : Run}
  {planned : PlannedStep}

/-- Only the decimals empty the cell of the point. -/
theorem Turn.isFilled_point {after : Run} (turn : Turn plan done item) (regular : plan.Regular)
    (effected : Action.Effected (plan.setting rounding locale) item.2 run item.1.action after)
    (found : plan.layout.tokenCell? .point = some pointCell) (past : ran done .point = true)
    (other : item.1.action.token? ≠ some .decimals) :
    after.cells.isFilled pointCell = run.cells.isFilled pointCell := by
  have foreign := turn.not_again past rfl
  have ungrouped := regular.cell_ne found (show Token.integer ≠ .point by decide)
  rw [Cells.isFilled, Cells.isFilled, effected.text_other (turn.foreign .point _ found foreign)
    (fun _ => ungrouped) (fun same => absurd same other), Action.isSome_stripped]

section Step

variable {after : Run}
  (decimals : Decimals plan rounding places optional value remainder pointCell cell done run)
  (effected : Action.Effected (plan.setting rounding locale) item.2 run item.1.action after)
include decimals effected

theorem Decimals.fraction_kept (other : item.1.action.token? ≠ some .integer) :
    after.fraction =
      if ran (done ++ [item]) .integer = true then some (Amount.split rounding places value).fraction
      else none := by
  have different : item.1.action ≠ .integer := by
    intro same
    rw [same] at other
    exact other rfl
  have same : ran (done ++ [item]) .integer = ran done .integer := by simp [other]
  rw [effected.passes.fraction different, decimals.fraction, same]

theorem Decimals.optionalPoint_kept (other : item.1.action.token? ≠ some .point) :
    after.optionalPoint = (ran (done ++ [item]) .point && (plan.optionalPoint && !(remainder == 0.0))) := by
  have different (optional : Bool) : item.1.action ≠ .point optional := by
    intro same
    rw [same] at other
    exact other rfl
  have same : ran (done ++ [item]) .point = ran done .point := by simp [other]
  rw [effected.passes.optionalPoint different, decimals.optionalPoint, same]

theorem Decimals.settled_kept (regular : plan.Regular) (turn : Turn plan done item)
    (standing : Standing plan value remainder done run)
    (found : plan.layout.tokenCell? .point = some pointCell)
    (own : plan.layout.tokenCell? .decimals = some cell) (past : ran done .decimals = true)
    (passed : ran done .point = true) :
    after.cells.isFilled pointCell = plan.showsDecimals rounding places optional value remainder ∧
    after.cells.text? cell =
      if plan.showsDecimals rounding places optional value remainder then
        some (String.ofList (plan.decimalText rounding places optional value remainder))
      else none := by
  obtain ⟨filled, text⟩ := decimals.settled past
  have other := turn.not_again past rfl
  have ungrouped := regular.cell_ne own (show Token.integer ≠ .decimals by decide)
  have unsigned : run.signCell ≠ some cell := by
    rw [standing.bearer]
    intro shown
    obtain ⟨token, known, _, ⟨rfl, _⟩ | ⟨rfl | rfl | rfl | rfl, _⟩⟩ := token_of_bearer shown
    all_goals cases regular.token_of_cell known own
  refine ⟨(turn.isFilled_point regular effected found passed other).trans filled, ?_⟩
  rw [effected.text_other (turn.foreign .decimals _ own other) (fun _ => ungrouped)
    (fun same => absurd same other),
    Action.stripped, if_neg (fun taken => unsigned taken.2), text]

end Step

theorem decimalsOf_fraction (setting : Setting) (whole : Bool) (places : Nat)
    (fraction : run.fraction =
      if whole = true then some (Amount.split setting.rounding places value).fraction else none) :
    Amount.decimalsOf setting places run =
      if whole = true ∧ (Amount.split setting.rounding places value).fraction ≠ "" then
        (Amount.split setting.rounding places value).fraction
      else (Amount.split setting.rounding places run.remainder).fraction := by
  rw [Amount.decimalsOf, fraction]
  cases whole with
  | false => rfl
  | true =>
    by_cases empty : (Amount.split setting.rounding places value).fraction = ""
    · simp [empty]
    · simp [empty]

/-- Decimals are claimed behind a point, and it runs before them. -/
theorem Turn.point_before (turn : Turn plan done (planned, cell)) (regular : plan.Regular)
    (kind : planned.action.token? = some .decimals) : ran done .point = true := by
  rw [turn.earlier kind (by decide)]
  exact regular.prior _ turn.member .decimals .point kind rfl

theorem Decimals.decimalsOf_eq
    (decimals : Decimals plan rounding places optional value remainder pointCell cell done run)
    (standing : Standing plan value remainder done run) (turn : Turn plan done (planned, cell))
    (kind : planned.action.token? = some .decimals) (locale : Locale) :
    Amount.decimalsOf (plan.setting rounding locale) places run =
      plan.fractionText rounding places value remainder := by
  have whole : ran done .integer = plan.has .integer := turn.earlier kind (by decide)
  have fraction := decimals.fraction
  rw [whole] at fraction
  rw [decimalsOf_fraction (plan.setting rounding locale) (plan.has .integer) places fraction, standing.left]
  rfl

/-- The flag of the run is that of the plan once the point was written. -/
theorem Decimals.optionalPoint_eq
    (decimals : Decimals plan rounding places optional value remainder pointCell cell done run)
    (passed : ran done .point = true) (written : (plan.optionalPoint && remainder == 0.0) = false) :
    run.optionalPoint = plan.optionalPoint := by
  rw [decimals.optionalPoint, passed]
  cases optionalPoint : plan.optionalPoint with
  | false => rfl
  | true =>
    rw [optionalPoint, Bool.true_and] at written
    rw [written]
    rfl

section Settle

variable (decimals : Decimals plan rounding places optional value remainder pointCell cell done run)
  (regular : plan.Regular) (standing : Standing plan value remainder done run)
  (turn : Turn plan done (planned, cell)) (action : planned.action = .decimals places optional)
include decimals regular standing turn action

theorem Decimals.keeps_eq (written : (plan.optionalPoint && remainder == 0.0) = false) (locale : Locale) :
    Amount.keeps (plan.setting rounding locale) places optional run =
      plan.showsDecimals rounding places optional value remainder := by
  have kind : planned.action.token? = some .decimals := congrArg Action.token? action
  have text := decimals.decimalsOf_eq standing turn kind locale
  have flag := decimals.optionalPoint_eq (turn.point_before regular kind) written
  simp only [Amount.keeps, text, flag, showsDecimals, written, decimalText]
  rfl

/-- The decimals have their turn: what they write is what the plan shows. -/
theorem Decimals.settle (found : plan.layout.tokenCell? .point = some pointCell) (locale : Locale) :
    (Amount.decimals places optional (plan.setting rounding locale) cell run).cells.isFilled pointCell =
        plan.showsDecimals rounding places optional value remainder ∧
    (Amount.decimals places optional (plan.setting rounding locale) cell run).cells.text? cell =
      if plan.showsDecimals rounding places optional value remainder then
        some (String.ofList (plan.decimalText rounding places optional value remainder))
      else none := by
  have kind : planned.action.token? = some .decimals := congrArg Action.token? action
  have fresh := turn.fresh .decimals kind rfl
  have blank := standing.blank .decimals cell (regular.cell _ turn.member .decimals kind rfl) fresh
  have apart : pointCell ≠ cell := turn.foreign .point pointCell found (by rw [kind]; simp)
  have inside : cell < run.cells.texts.length := standing.inside regular turn
  have filled := decimals.point (turn.point_before regular kind) fresh
  have text := decimals.decimalsOf_eq standing turn kind locale
  rw [Amount.decimals_eq, setting_layout, found]
  simp only [filled]
  cases written : (plan.optionalPoint && remainder == 0.0) with
  | true =>
    have hidden : plan.showsDecimals rounding places optional value remainder = false := by
      simp [showsDecimals, written]
    simp [hidden, filled, written, blank]
  | false =>
    have keeps := decimals.keeps_eq regular standing turn action written locale
    cases shows : plan.showsDecimals rounding places optional value remainder with
    | true =>
      have stands : (run.cells.text? pointCell).isSome = true := by
        rw [← Cells.isFilled, filled, written]
        rfl
      simp [keeps, shows, text, decimalText, Run.write, inside, Cells.isFilled, apart, stands]
    | false => simp [keeps, shows, Cells.isFilled, Ne.symm apart, blank]

end Settle

section Step

variable (decimals : Decimals plan rounding places optional value remainder pointCell cell done run)
  (regular : plan.Regular) (standing : Standing plan value remainder done run) (turn : Turn plan done item)
  (locale : Locale)
include decimals regular standing turn

theorem Decimals.fraction_step (member : (planned, cell) ∈ plan.program)
    (action : planned.action = .decimals places optional) :
    (item.1.action.perform (plan.setting rounding locale) item.2 run).fraction =
      if ran (done ++ [item]) .integer = true then some (Amount.split rounding places value).fraction
      else none := by
  by_cases own : item.1.action.token? = some .integer
  · obtain ⟨precise, positive, _⟩ := regular.places _ member places optional action
    have found : Amount.integerFraction (plan.setting rounding locale) run.value run.fraction =
        some (Amount.split rounding places run.value).fraction :=
      Amount.integerFraction_eq precise positive run.value run.fraction
    rw [ran_append, ran_singleton, own, Action.eq_integer own, Action.perform, Amount.integer_eq,
      ← standing.scaled]
    simpa using found
  · exact decimals.fraction_kept (regular.effected turn rounding locale run) own

theorem Decimals.optionalPoint_step :
    (item.1.action.perform (plan.setting rounding locale) item.2 run).optionalPoint =
      (ran (done ++ [item]) .point && (plan.optionalPoint && !(remainder == 0.0))) := by
  by_cases own : item.1.action.token? = some .point
  · obtain ⟨optionalPoint, same⟩ := Action.eq_point own
    rw [ran_append, ran_singleton, own, same, Action.perform, Amount.optionalPoint_point,
      decimals.optionalPoint, turn.fresh .point own rfl, regular.optionalPoint_eq turn.member same,
      standing.left]
    simp
  · exact decimals.optionalPoint_kept (regular.effected turn rounding locale run) own

theorem Decimals.point_step (found : plan.layout.tokenCell? .point = some pointCell)
    (past : ran (done ++ [item]) .point = true) (idle : ran (done ++ [item]) .decimals = false) :
    (item.1.action.perform (plan.setting rounding locale) item.2 run).cells.isFilled pointCell =
      !(plan.optionalPoint && remainder == 0.0) := by
  obtain ⟨before, other⟩ := ran_concat_eq_false.mp idle
  by_cases own : item.1.action.token? = some .point
  · obtain rfl := regular.own_cell turn.member found own rfl
    have blank := standing.blank .point _ found (turn.fresh .point own rfl)
    obtain ⟨optionalPoint, same⟩ := Action.eq_point own
    rw [same, Action.perform, Cells.isFilled,
      Action.point_perform optionalPoint (standing.inside regular turn), blank,
      regular.optionalPoint_eq turn.member same, ← standing.left, Amount.writesPoint]
    cases optionalPoint && run.remainder == 0.0 <;> rfl
  · have passed := (ran_concat.mp past).resolve_right own
    have effected := regular.effected turn rounding locale run
    exact (turn.isFilled_point regular effected found passed other).trans (decimals.point passed before)

/-- Each step keeps what the run knows about the decimals. -/
theorem Decimals.step (member : (planned, cell) ∈ plan.program)
    (action : planned.action = .decimals places optional)
    (found : plan.layout.tokenCell? .point = some pointCell) :
    Decimals plan rounding places optional value remainder pointCell cell (done ++ [item])
      (item.1.action.perform (plan.setting rounding locale) item.2 run) := by
  have kind : planned.action.token? = some .decimals := congrArg Action.token? action
  refine ⟨?_, ?_, ?_, ?_⟩
  · exact decimals.fraction_step regular standing turn locale member action
  · exact decimals.optionalPoint_step regular standing turn locale
  · intro past idle
    exact decimals.point_step regular standing turn locale found past idle
  · intro past
    by_cases own : item.1.action.token? = some .decimals
    · obtain rfl := regular.unique member turn.member kind own rfl
      rw [action]
      exact decimals.settle regular standing turn action found locale
    · have passed := (ran_concat.mp past).resolve_right own
      have pointRan : ran done .point = true := by
        rw [turn.ran_before passed (by decide)]
        exact regular.prior _ member .decimals .point kind rfl
      exact decimals.settled_kept (regular.effected turn rounding locale run) regular turn standing found
        (regular.cell _ member .decimals kind rfl) passed pointRan

end Step

theorem decimals_scaled (plan : Plan) (number : Float) (rounding : Float → Float) (locale : Locale)
    (places optional pointCell cell : Nat) :
    Decimals plan rounding places optional (plan.scaled number rounding locale).value
      (plan.scaled number rounding locale).remainder pointCell cell (scales plan.program)
      (plan.scaled number rounding locale) := by
  have unsigned : (plan.scaled number rounding locale).signCell = none ∧
      (plan.scaled number rounding locale).fraction = none ∧
      (plan.scaled number rounding locale).optionalPoint = false :=
    unsigned_runAll fun item member => (List.mem_filter.mp member).2
  refine ⟨?_, ?_, fun past => ?_, fun past => ?_⟩
  · rw [ran_scales (by decide)]
    exact unsigned.2.1
  · rw [ran_scales (by decide)]
    exact unsigned.2.2
  · rw [ran_scales (by decide)] at past
    cases past
  · rw [ran_scales (by decide)] at past
    cases past

theorem Regular.decimals_after (regular : plan.Regular) (member : (planned, cell) ∈ plan.program)
    (action : planned.action = .decimals places optional)
    (found : plan.layout.tokenCell? .point = some pointCell)
    (number : Float) (rounding : Float → Float) (locale : Locale) :
    Decimals plan rounding places optional (plan.scaled number rounding locale).value
      (plan.scaled number rounding locale).remainder pointCell cell plan.program
      (plan.finish number rounding locale) := by
  have both := regular.run_induction
    (motive := fun done run =>
      Standing plan (plan.scaled number rounding locale).value
        (plan.scaled number rounding locale).remainder done run ∧
        Decimals plan rounding places optional (plan.scaled number rounding locale).value
          (plan.scaled number rounding locale).remainder pointCell cell done run)
    ⟨standing_scaled regular number rounding locale,
      decimals_scaled plan number rounding locale places optional pointCell cell⟩
    (fun _ _ _ turn unscaled held => ⟨held.1.step regular turn rounding locale unscaled,
      held.2.step regular held.1 turn locale member action found⟩)
    (show plan.program = plan.program ++ [] by simp) (by simp)
  exact both.2

/-- The point and the decimals stand in their cells at the end, or both cells are blank. -/
theorem Regular.decimals_finish (regular : plan.Regular) (member : (planned, cell) ∈ plan.program)
    (action : planned.action = .decimals places optional)
    (found : plan.layout.tokenCell? .point = some pointCell)
    (number : Float) (rounding : Float → Float) (locale : Locale) :
    let shows := plan.showsDecimals rounding places optional (plan.scaled number rounding locale).value
      (plan.scaled number rounding locale).remainder
    (plan.finish number rounding locale).cells.isFilled pointCell = shows ∧
    (plan.finish number rounding locale).cells.isFilled cell = shows ∧
    (plan.finish number rounding locale).cells.text? cell =
      if shows then
        some (String.ofList (plan.decimalText rounding places optional
          (plan.scaled number rounding locale).value (plan.scaled number rounding locale).remainder))
      else none := by
  intro shows
  have kind : planned.action.token? = some .decimals := congrArg Action.token? action
  have decimals := regular.decimals_after member action found number rounding locale
  obtain ⟨filled, text⟩ := decimals.settled (ran_program_of_mem member kind)
  refine ⟨filled, ?_, text⟩
  rw [Cells.isFilled, text]
  change (if shows = true then _ else none).isSome = shows
  cases shows with
  | true => rfl
  | false => rfl

/-- How a run of the plan on a value renders the decimals, when the value is scaled to a number with a
remainder. -/
structure DecimalRendering (plan : Plan) (value : Float) (rounding : Float → Float) (locale : Locale)
    (places optional cell : Nat) (number remainder : Float) : Prop where
  /-- The steps behind the scaling leave the number and its remainder as they are. -/
  scaled : ∀ before after, plan.program = before ++ after →
    (∀ item ∈ after, item.1.action.isScale = false) →
    (plan.runAfter value rounding locale before).value = number ∧
      (plan.runAfter value rounding locale before).remainder = remainder
  /-- The integer step writes the other part of the rounding that the decimals come from. -/
  integer : ∀ before item after, plan.program = before ++ item :: after → item.1.action = .integer →
    (plan.runAfter value rounding locale (before ++ [item])).cells.text? item.2 =
      some (Amount.split rounding places number).whole
  trimmed : Amount.Trimmed optional (plan.fractionText rounding places number remainder).toList
    (plan.decimalText rounding places optional number remainder)
  digits : ∀ c ∈ plan.decimalText rounding places optional number remainder, c.isDigit = true
  /-- Decimals come with a point. -/
  point : ∃ planned pointCell, (planned, pointCell) ∈ plan.program ∧
    planned.action = .point plan.optionalPoint
  /-- The point and the decimals are written both or not at all. -/
  together : ∀ planned pointCell optionalPoint, (planned, pointCell) ∈ plan.program →
    planned.action = .point optionalPoint →
    ((plan.finish value rounding locale).cells.isFilled pointCell = true ↔
      (plan.finish value rounding locale).cells.isFilled cell = true) ∧
    ((plan.finish value rounding locale).cells.isFilled cell = true ↔
      (optionalPoint = false ∨ (remainder == 0.0) = false) ∧
      plan.decimalText rounding places optional number remainder ≠ [] ∧
      (optionalPoint = true → ∃ c ∈ plan.decimalText rounding places optional number remainder, c ≠ '0'))
  text : (plan.finish value rounding locale).cells.isFilled cell = true →
    (plan.finish value rounding locale).cells.text? cell =
      some (String.ofList (plan.decimalText rounding places optional number remainder))

/-- The integer and the decimals of a value come from one rounding, and no point is left without
decimals. -/
theorem decimals_rendering (unclaimed : Unclaimed) (serial : Nat) (pattern : String) (plan : Plan)
    (compiled : Plan.compile (standard unclaimed) serial pattern = .ok plan) (planned : PlannedStep)
    (cell places optional : Nat) (member : (planned, cell) ∈ plan.program)
    (action : planned.action = .decimals places optional) (value : Float) (rounding : Float → Float)
    (locale : Locale) :
    DecimalRendering plan value rounding locale places optional cell
      (plan.scaled value rounding locale).value (plan.scaled value rounding locale).remainder := by
  have regular := regular_of_compile compiled
  have kind : planned.action.token? = some .decimals := congrArg Action.token? action
  obtain ⟨precise, positive, _⟩ := regular.places _ member places optional action
  obtain ⟨⟨pointStep, pointCell⟩, pointMember, pointKind⟩ :=
    (has_iff regular.steps).mp (regular.prior _ member .decimals .point kind rfl)
  have found := regular.cell _ pointMember .point pointKind rfl
  obtain ⟨filled, filled', text⟩ := regular.decimals_finish member action found value rounding locale
  refine ⟨?_, ?_, Amount.trimmed_trimZeros _ _, ?_, ?_, ?_, ?_⟩
  · intro before after order unscaled
    have standing := (regular.signs_after value rounding locale order unscaled).1
    exact ⟨standing.scaled, standing.left⟩
  · intro before item after order integer
    rw [regular.integer_written value rounding locale order integer, Amount.integerText_eq precise positive]
    rfl
  · intro c digit
    exact isDigit_of_mem_decimalText digit
  · refine ⟨pointStep, pointCell, pointMember, ?_⟩
    obtain ⟨optionalPoint, same⟩ := Action.eq_point pointKind
    rw [same, regular.optionalPoint_eq pointMember same]
  · intro other otherCell optionalPoint otherMember point
    have otherFound := regular.cell _ otherMember .point (congrArg Action.token? point) rfl
    obtain rfl : pointCell = otherCell := Option.some.inj (found.symm.trans otherFound)
    rw [filled, filled', ← regular.optionalPoint_eq otherMember point]
    exact ⟨Iff.rfl, showsDecimals_iff⟩
  · intro shown
    rw [filled'] at shown
    rw [text, if_pos shown]

/-- Two decimals of which the second is optional, behind an integer and a point. -/
theorem decimals_rendering_optional :
    ∃ plan, Plan.compile (standard .echo) 0 "0.0[0]" = .ok plan ∧
      DecimalRendering plan 2.5 id {} 2 1 2 (plan.scaled 2.5 id {}).value
        (plan.scaled 2.5 id {}).remainder := by
  let plan : Plan :=
    { pattern := "0.0[0]"
      steps := [⟨.integer, Weight.integer, ⟨7⟩⟩, ⟨.point false, Weight.delimiter, ⟨11⟩⟩,
        ⟨.decimals 2 1, Weight.decimals, ⟨12⟩⟩]
      precision := ⟨some 2, some 1⟩
      layout := ⟨[0, 1, 2], [(⟨7⟩, 0), (⟨11⟩, 1), (⟨12⟩, 2)],
        [(.integer, 0), (.point, 1), (.decimals, 2)]⟩ }
  have compiled : Plan.compile (standard .echo) 0 "0.0[0]" = .ok plan := rfl
  have member : (⟨.decimals 2 1, Weight.decimals, ⟨12⟩⟩, 2) ∈ plan.program := by simp [plan, program]
  exact ⟨plan, compiled, decimals_rendering .echo 0 "0.0[0]" plan compiled _ 2 2 1 member rfl 2.5 id {}⟩

end Plan

end NumberPattern
