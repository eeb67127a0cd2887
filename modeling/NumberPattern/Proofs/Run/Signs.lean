import NumberPattern.Proofs.Run.Standing

/-! The texts that may bear the sign of the value: the currency symbol, the point and the integer. A run
keeps them in line with the cell that shows the sign, and the last of the steps that take the sign
decides where it ends. -/

namespace NumberPattern.Plan

/-- What the integer shows before any sign is taken from it. -/
def integerText (plan : Plan) (rounding : Float → Float) (locale : Locale) (value : Float)
    (grouped : Bool) :
    String :=
  let written := Amount.integerText (plan.setting rounding locale) value
  if grouped then Amount.groupThousands locale.group written else written

/-- The texts that may bear a sign bear it exactly where the sign is shown; an integer that was written
with a sign loses it when the sign is shown elsewhere. -/
structure Signs (plan : Plan) (rounding : Float → Float) (locale : Locale) (value : Float)
    (done : List (PlannedStep × Nat)) (run : Run) : Prop where
  currency : ∀ cell, plan.layout.tokenCell? .currency = some cell → ran done .currency = true →
    run.cells.text? cell = some (signed (decide (run.signCell = some cell)) locale.currency)
  point : ∀ cell text, plan.layout.tokenCell? .point = some cell → run.cells.text? cell = some text →
    text = signed (decide (run.signCell = some cell)) locale.point
  integer : ∀ cell, plan.layout.tokenCell? .integer = some cell → ran done .integer = true →
    run.cells.text? cell =
      let text := plan.integerText rounding locale value (ran done .grouping)
      some (if value < 0.0 ∧ run.signCell ≠ some cell then withoutSign text else text)

variable {plan : Plan} {value remainder : Float} {rounding : Float → Float} {locale : Locale}
  {done : List (PlannedStep × Nat)} {item : PlannedStep × Nat} {run : Run} {token : Token}

/-- Of a negative value the integer shows the sign until a token behind it takes it. -/
theorem Standing.signCell_integer (standing : Standing plan value remainder done run)
    (negative : value < 0.0)
    (past : ran done .integer = true) (closeParen : ran done .closeParen = false)
    (currency : ran done .currency = false) (minus : ran done .minus = false) :
    run.signCell = plan.layout.tokenCell? .integer := by
  rw [standing.bearer, Plan.bearer]
  simp [negative, past, closeParen, currency, minus]

section Step

variable {after : Run} (signs : Signs plan rounding locale value done run) (turn : Turn plan done item)
  (effected : Action.Effected (plan.setting rounding locale) item.2 run item.1.action after)
include signs turn effected

theorem Signs.currency_kept (regular : plan.Regular) {cell : Nat}
    (found : plan.layout.tokenCell? .currency = some cell)
    (past : ran done .currency = true) (foreign : item.1.action.token? ≠ some .currency) :
    after.cells.text? cell = some (signed (decide (after.signCell = some cell)) locale.currency) := by
  have apart := turn.foreign .currency cell found foreign
  have ungrouped := regular.cell_ne found (show Token.integer ≠ .currency by decide)
  have undropped := regular.cell_ne found (show Token.point ≠ .currency by decide)
  rw [effected.text_other apart (fun _ => ungrouped) (fun _ => undropped),
    signs.currency cell found past, effected.signCell]
  exact Action.stripped_signed (fun taken => Action.bearer_ne_of_takes taken apart)
    (fun kept => Action.bearer_of_not_takes kept (turn.kind_ne past (by decide))
      (turn.kind_ne past (by decide)) (turn.kind_ne past (by decide))) _

variable (standing : Standing plan value remainder done run)
include standing

/-- The point keeps its text, its sign apart, or it goes. -/
theorem Signs.point_kept (regular : plan.Regular) {cell : Nat} {text : String}
    (found : plan.layout.tokenCell? .point = some cell)
    (foreign : item.1.action.token? ≠ some .point) (written : after.cells.text? cell = some text) :
    text = signed (decide (after.signCell = some cell)) locale.point := by
  have apart := turn.foreign .point cell found foreign
  cases before : run.cells.text? cell with
  | none =>
    rw [effected.other cell apart, before, Action.touch_none] at written
    cases written
  | some earlier =>
    have past : ran done .point = true := by
      rw [← Bool.not_eq_false]
      intro idle
      rw [standing.blank .point cell found idle] at before
      cases before
    have ungrouped := regular.cell_ne found (show Token.integer ≠ .point by decide)
    have moved (taken : item.1.action.takes (plan.setting rounding locale) run = true) :
        item.1.action.bearer (plan.setting rounding locale) item.2 run ≠ some cell :=
      Action.bearer_ne_of_takes taken apart
    have stayed (kept : item.1.action.takes (plan.setting rounding locale) run = false) :
        item.1.action.bearer (plan.setting rounding locale) item.2 run = run.signCell :=
      Action.bearer_of_not_takes kept (turn.kind_ne past (by decide))
        (turn.kind_ne past (by decide)) foreign
    have kept := effected.text_kept apart (fun _ => ungrouped) written
    rw [before, signs.point cell earlier found before, Action.stripped_signed moved stayed, written] at kept
    rw [effected.signCell]
    exact Option.some.inj kept

theorem Signs.integer_grouped {cell : Nat} (found : plan.layout.tokenCell? .integer = some cell)
    (past : ran done .integer = true) (group : item.1.action = .group) :
    after.cells.text? cell =
      let text := plan.integerText rounding locale value (ran (done ++ [item]) .grouping)
      some (if value < 0.0 ∧ after.signCell ≠ some cell then withoutSign text else text) := by
  have kind : item.1.action.token? = some .grouping := congrArg Action.token? group
  have apart := turn.foreign .integer cell found (by rw [kind]; simp)
  have plain : ran done .grouping = false := turn.fresh .grouping kind rfl
  have shown (negative : value < 0.0) : run.signCell = some cell :=
    (standing.signCell_integer negative past (turn.later kind (by decide)) (turn.later kind (by decide))
      (turn.later kind (by decide))).trans found
  have still : ¬ (value < 0.0 ∧ run.signCell ≠ some cell) :=
    fun ⟨negative, elsewhere⟩ => elsewhere (shown negative)
  have written := signs.integer cell found past
  simp only [plain, if_neg still] at written
  have stays : after.signCell = run.signCell := by
    rw [effected.signCell, group]
    rfl
  have grouped : ran (done ++ [item]) .grouping = true := by simp [kind]
  rw [effected.other cell apart, group, written, stays, grouped]
  simp only [if_neg still, Action.touch, setting_layout, found, if_true, Option.map_some, integerText]
  rfl

theorem Signs.integer_kept (regular : plan.Regular) {cell : Nat}
    (found : plan.layout.tokenCell? .integer = some cell)
    (past : ran done .integer = true) (foreign : item.1.action.token? ≠ some .integer)
    (ungrouped : item.1.action.token? ≠ some .grouping) :
    after.cells.text? cell =
      let text := plan.integerText rounding locale value (ran (done ++ [item]) .grouping)
      some (if value < 0.0 ∧ after.signCell ≠ some cell then withoutSign text else text) := by
  have apart := turn.foreign .integer cell found foreign
  have undropped := regular.cell_ne found (show Token.point ≠ .integer by decide)
  have same : ran (done ++ [item]) .grouping = ran done .grouping := by simp [ungrouped]
  rw [effected.text_other apart (fun same => absurd same ungrouped) (fun _ => undropped),
    signs.integer cell found past, same, effected.signCell]
  refine Action.stripped_unsigned ?_ (fun taken => Action.bearer_ne_of_takes taken apart) ?_ _
  · intro taken
    have negative := Action.isNegative_of_takes taken
    rw [standing.isNegative, decide_eq_true_eq] at negative
    exact negative
  · intro kept
    by_cases kind : item.1.action.token? = some .point
    · -- a point takes the sign only where nothing shows it, and here the integer does
      have shown : run.isNegative = true → run.signCell = some cell := by
        rw [standing.isNegative, decide_eq_true_eq]
        intro negative
        exact (standing.signCell_integer negative past (turn.later kind (by decide))
          (turn.later kind (by decide))
          (turn.later kind (by decide))).trans found
      obtain ⟨optional, action⟩ := Action.eq_point kind
      rw [action, Action.bearer, if_neg]
      simp only [Bool.and_eq_true, not_and, Bool.not_eq_true, and_imp]
      intro _ negative
      rw [shown negative]
      rfl
    · exact Action.bearer_of_not_takes kept (turn.kind_ne past (by decide)) foreign kind

end Step

section Own

variable (standing : Standing plan value remainder done run) (regular : plan.Regular)
  (turn : Turn plan done item) (rounding : Float → Float) (locale : Locale)
include standing regular turn

/-- The symbol is written with the sign just when its step takes the sign to it. -/
theorem Standing.currency_own (own : item.1.action.token? = some .currency) :
    (item.1.action.perform (plan.setting rounding locale) item.2 run).cells.text? item.2 =
      some (signed (decide (item.1.action.bearer (plan.setting rounding locale) item.2 run = some item.2))
        locale.currency) := by
  have before := standing.not_bearer turn own rfl
  obtain ⟨carriesSign, action⟩ := Action.eq_currency own
  simp only [action, Action.perform, Action.currency_perform carriesSign (standing.inside regular turn),
    Action.bearer]
  by_cases taken : Action.takesSign (plan.setting rounding locale) run carriesSign = true
  · simp [taken]
  · simp [taken, before]

theorem Standing.point_own {text : String} (found : plan.layout.tokenCell? .point = some item.2)
    (own : item.1.action.token? = some .point)
    (written : (item.1.action.perform (plan.setting rounding locale) item.2 run).cells.text? item.2 = some text) :
    text = signed (decide (item.1.action.bearer (plan.setting rounding locale) item.2 run = some item.2))
      locale.point := by
  have before := standing.not_bearer turn own rfl
  have blank := standing.blank .point _ found (turn.fresh .point own rfl)
  obtain ⟨optional, action⟩ := Action.eq_point own
  rw [action, Action.perform, Action.point_perform optional (standing.inside regular turn), blank] at written
  rw [action]
  split at written
  next writes =>
    cases written
    by_cases bare : (run.isNegative && run.signCell.isNone) = true
    · simp [Action.bearer, writes, bare]
    · simp [Action.bearer, writes, bare, before]
  · cases written

/-- The integer is written with the sign of the value, which it shows, and before any grouping. -/
theorem Standing.integer_own (own : item.1.action.token? = some .integer) :
    (item.1.action.perform (plan.setting rounding locale) item.2 run).cells.text? item.2 =
      let text := plan.integerText rounding locale value (ran (done ++ [item]) .grouping)
      some (if value < 0.0 ∧ item.1.action.bearer (plan.setting rounding locale) item.2 run ≠ some item.2 then
          withoutSign text
        else text) := by
  have ungrouped : ran (done ++ [item]) .grouping = false := by
    rw [ran_append, turn.later own (by decide), ran_singleton, own]
    rfl
  have shown : ¬ (value < 0.0 ∧
      Action.integer.bearer (plan.setting rounding locale) item.2 run ≠ some item.2) := by
    rintro ⟨negative, elsewhere⟩
    simp [Action.bearer, standing.isNegative, negative] at elsewhere
  rw [Action.eq_integer own]
  simp only [ungrouped, if_neg shown, Action.perform, Amount.integer_eq, Run.write,
    Cells.text?_write_self (standing.inside regular turn), standing.scaled, integerText]
  rfl

end Own

/-- Each step keeps the texts in line with the sign. -/
theorem Signs.step (signs : Signs plan rounding locale value done run) (regular : plan.Regular)
    (standing : Standing plan value remainder done run) (turn : Turn plan done item) :
    Signs plan rounding locale value (done ++ [item])
      (item.1.action.perform (plan.setting rounding locale) item.2 run) := by
  have effected := regular.effected turn rounding locale run
  refine ⟨?_, ?_, ?_⟩
  · intro cell found past
    by_cases own : item.1.action.token? = some .currency
    · obtain rfl := regular.own_cell turn.member found own rfl
      rw [effected.signCell]
      exact standing.currency_own regular turn rounding locale own
    · exact signs.currency_kept turn effected regular found ((ran_concat.mp past).resolve_right own) own
  · intro cell text found written
    by_cases own : item.1.action.token? = some .point
    · obtain rfl := regular.own_cell turn.member found own rfl
      rw [effected.signCell]
      exact standing.point_own regular turn rounding locale found own written
    · exact signs.point_kept turn effected standing regular found own written
  · intro cell found past
    by_cases own : item.1.action.token? = some .integer
    · obtain rfl := regular.own_cell turn.member found own rfl
      rw [effected.signCell]
      exact standing.integer_own regular turn rounding locale own
    · have before := (ran_concat.mp past).resolve_right own
      by_cases group : item.1.action.token? = some .grouping
      · exact signs.integer_grouped turn effected standing found before (Action.eq_group group)
      · exact signs.integer_kept turn effected standing regular found before own group

theorem signs_scaled (regular : plan.Regular) (number : Float) (rounding : Float → Float)
    (locale : Locale) :
    Signs plan rounding locale (plan.scaled number rounding locale).value (scales plan.program)
      (plan.scaled number rounding locale) := by
  have standing := standing_scaled regular number rounding locale
  refine ⟨fun cell found past => ?_, fun cell text found written => ?_, fun cell found past => ?_⟩
  · rw [ran_scales (by decide)] at past
    cases past
  · rw [standing.blank .point cell found (ran_scales (by decide))] at written
    cases written
  · rw [ran_scales (by decide)] at past
    cases past

/-- What stands and what bears the sign after every prefix of the program that has all of the
scaling. -/
theorem Regular.signs_after (regular : plan.Regular) (number : Float) (rounding : Float → Float)
    (locale : Locale)
    {rest : List (PlannedStep × Nat)} (order : plan.program = done ++ rest)
    (unscaled : ∀ item ∈ rest, item.1.action.isScale = false) :
    Standing plan (plan.scaled number rounding locale).value
      (plan.scaled number rounding locale).remainder done
        (plan.runAfter number rounding locale done) ∧
      Signs plan rounding locale (plan.scaled number rounding locale).value done
        (plan.runAfter number rounding locale done) :=
  regular.run_induction
    (motive := fun done run =>
      Standing plan (plan.scaled number rounding locale).value
        (plan.scaled number rounding locale).remainder done run ∧
        Signs plan rounding locale (plan.scaled number rounding locale).value done run)
    ⟨standing_scaled regular number rounding locale, signs_scaled regular number rounding locale⟩
    (fun _ _ _ turn unscaled held =>
      ⟨held.1.step regular turn rounding locale unscaled, held.2.step regular held.1 turn⟩)
    order unscaled

end NumberPattern.Plan
