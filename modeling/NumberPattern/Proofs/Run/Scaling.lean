import NumberPattern.Proofs.Run.Correspondence
import NumberPattern.Proofs.Run.Program

/-! Scaling as a change of the value. The steps that scale run first, in the order of the text; behind
them the run is the one that starts with the scaled value, the cells of the units apart. -/

namespace NumberPattern
open Lexicon (standard)

namespace Action

/-- What the value is after an action that scales; other actions leave it. -/
def scale (value : Float) : Action → Float
  | percent => value * 100.0
  | byteUnit =>
      match Scale.byteUnit? value.abs with
      | some (_, power) => value / Double.power 1024.0 power
      | none => value
  | abbreviate choice =>
      match choice.choose value.abs with
      | some magnitude => value / magnitude.divisor
      | none => value
  | _ => value

/-- The unit that an action writes when it scales the value. -/
def unit? (locale : Locale) (value : Float) : Action → Option String
  | percent => some "%"
  | byteUnit => (Scale.byteUnit? value.abs).map (·.1)
  | abbreviate choice => (choice.choose value.abs).map locale.words.word
  | _ => none

variable {action : Action} {setting : Setting} {cell other : Nat} {run : Run}

/-- Scaling replaces the value together with its remainder and writes the unit; nothing else. -/
theorem perform_of_isScale (scales : action.isScale = true) (whole : run.remainder = Double.remainder run.value) :
    action.perform setting cell run =
      { run with
        value := action.scale run.value
        remainder := Double.remainder (action.scale run.value)
        cells := ((action.unit? setting.locale run.value).map (run.cells.write cell)).getD run.cells } := by
  have same : ({ run with remainder := Double.remainder run.value } : Run) = run := by rw [← whole]
  cases action with
  | percent => rfl
  | byteUnit =>
    simp only [perform, Scale.byteUnit, scale, unit?]
    cases Scale.byteUnit? run.value.abs with
    | none => exact same.symm
    | some unit => rfl
  | abbreviate choice =>
    simp only [perform, Scale.abbreviate, scale, unit?]
    cases choice.choose run.value.abs with
    | none => exact same.symm
    | some magnitude => rfl
  | _ => cases scales

theorem weight_of_isScale (scales : action.isScale = true) : action.weight = Weight.scale := by
  cases action with
  | percent | byteUnit | abbreviate => rfl
  | _ => cases scales

/-- No step looks for the cell of an action that scales. -/
theorem not_consulted_of_isScale {token : Token} (scales : action.isScale = true)
    (consulted : token.isConsulted = true) : action.token? ≠ some token := by
  cases action with
  | percent | byteUnit | abbreviate =>
    rintro ⟨⟩
    cases consulted
  | _ => cases scales

/-- An action does not show the sign in a cell that is neither its own nor showed it before. -/
theorem bearer_ne (different : other ≠ cell) (unsigned : run.signCell ≠ some other) :
    action.bearer setting cell run ≠ some other := by
  have own : some cell ≠ some other := fun same => different (Option.some.inj same).symm
  cases action with
  | plus | integer | minus | point | currency =>
    simp only [bearer]
    split
    · exact own
    · exact unsigned
  | closeParen =>
    simp only [bearer]
    split
    · simp
    · exact unsigned
  | _ => exact unsigned

theorem isScale_placed (action : Action) (serial cell : Nat) :
    (action.placed serial cell).isScale = action.isScale := by
  cases action <;> rfl

end Action

namespace Plan

variable {setting : Setting} {items : List (PlannedStep × Nat)} {run : Run}

/-- What is left of a value after these actions scaled it, one after the other. -/
def scaledBy (actions : List Action) (value : Float) : Float := actions.foldl Action.scale value

/-- After a stretch of scaling only the value, its remainder and the cells are new. -/
theorem runAll_of_isScale (scale : ∀ item ∈ items, item.1.action.isScale = true)
    (whole : run.remainder = Double.remainder run.value) :
    runAll setting items run =
      { run with
        value := scaledBy (items.map (·.1.action)) run.value
        remainder := Double.remainder (scaledBy (items.map (·.1.action)) run.value)
        cells := (runAll setting items run).cells } := by
  induction items generalizing run with
  | nil =>
    change run = { run with remainder := Double.remainder run.value }
    rw [← whole]
  | cons item items ih =>
    obtain ⟨first, others⟩ := List.forall_mem_cons.mp scale
    rw [runAll_cons (Action.plain_of_isScale first), Action.perform_of_isScale first whole, ih others rfl]
    rfl

/-- A cell that belongs to no step of a stretch, is not that of the integer or of the point and does not
show the sign keeps its text. -/
theorem untouched_runAll {cell : Nat} (plain : ∀ item ∈ items, ∀ step, item.1.action ≠ .custom step)
    (away : ∀ item ∈ items, cell ≠ item.2)
    (notInteger : setting.layout.tokenCell? .integer ≠ some cell)
    (notPoint : setting.layout.tokenCell? .point ≠ some cell) (unsigned : run.signCell ≠ some cell) :
    (runAll setting items run).cells.text? cell = run.cells.text? cell := by
  induction items generalizing run with
  | nil => rfl
  | cons item items ih =>
    obtain ⟨first, others⟩ := List.forall_mem_cons.mp plain
    obtain ⟨apart, away⟩ := List.forall_mem_cons.mp away
    have effected : Action.Effected setting item.2 run item.1.action
        (item.1.action.perform setting item.2 run) := Action.effected_perform first
    have still : (item.1.action.perform setting item.2 run).signCell ≠ some cell := by
      rw [effected.signCell]
      exact Action.bearer_ne apart unsigned
    rw [runAll_cons first]
    apply (ih others away still).trans
    rw [effected.text_other apart (fun _ => notInteger) (fun _ => notPoint),
      Action.stripped, if_neg (fun shown => unsigned shown.2)]

variable {plan : Plan} {rounding : Float → Float} {locale : Locale}

/-- The steps of a plan that do not scale. -/
def others (plan : Plan) : List (PlannedStep × Nat) := plan.program.filter (!·.1.action.isScale)

theorem Regular.scales_first (regular : plan.Regular) :
    plan.program = scales plan.program ++ plan.others :=
  (scales_append regular.sorted).symm

theorem scaled_eq (plan : Plan) (value : Float) (rounding : Float → Float) (locale : Locale) :
    let number := scaledBy ((scales plan.program).map (·.1.action)) value
    plan.scaled value rounding locale =
      { Run.start number plan.layout.size with cells := (plan.scaled value rounding locale).cells } :=
  runAll_of_isScale (fun _ member => (List.mem_filter.mp member).2) rfl

/-- The cells that no unit is written to, each paired with itself. -/
def Kept (plan : Plan) (cell cell' : Nat) : Prop :=
  cell = cell' ∧ ∀ item ∈ scales plan.program, item.2 ≠ cell

theorem kept_oneToOne (plan : Plan) : Relator.BiUnique plan.Kept :=
  ⟨fun _ _ _ first second => first.1.trans second.1.symm, fun _ _ _ first second => first.1.symm.trans second.1⟩

/-- The cell of a token that some step looks for is not that of a unit. -/
theorem Regular.unit_cell_ne (regular : plan.Regular) {token : Token} {cell : Nat} {item : PlannedStep × Nat}
    (found : plan.layout.tokenCell? token = some cell) (consulted : token.isConsulted = true)
    (member : item ∈ plan.program) (scale : item.1.action.isScale = true) : item.2 ≠ cell := by
  rintro rfl
  obtain ⟨other, member', own, kind⟩ := regular.step token _ found
  obtain rfl := regular.same_item member' member own
  exact Action.not_consulted_of_isScale scale consulted kind

theorem Regular.kept_setting (regular : plan.Regular) (rounding : Float → Float) (locale : Locale) :
    (plan.setting rounding locale).Corresponds plan.Kept (plan.setting rounding locale) := by
  refine ⟨rfl, rfl, rfl, fun token consulted => ?_⟩
  rw [setting_layout]
  cases found : plan.layout.tokenCell? token with
  | none => exact .none
  | some cell =>
    refine .some ⟨rfl, fun item member => ?_⟩
    obtain ⟨member, scale⟩ := List.mem_filter.mp member
    exact regular.unit_cell_ne found consulted member scale

/-- Behind the scaling the run is the one that starts with the scaled value, the units apart. -/
theorem Regular.kept_scaled (regular : plan.Regular) (value : Float) (rounding : Float → Float)
    (locale : Locale) :
    (plan.scaled value rounding locale).Corresponds plan.Kept
      (Run.start (scaledBy ((scales plan.program).map (·.1.action)) value) plan.layout.size) := by
  have plain : ∀ item ∈ scales plan.program, ∀ step, item.1.action ≠ .custom step :=
    fun item member => regular.plain item (List.mem_filter.mp member).1
  have blank {cell : Nat} (away : ∀ item ∈ scales plan.program, item.2 ≠ cell) :
      (plan.scaled value rounding locale).cells.text? cell = none :=
    blank_runAll plain (fun item member => (away item member).symm) (Cells.text?_blank _ _)
  have length : (plan.scaled value rounding locale).cells.texts.length = plan.layout.size :=
    (length_runAll plain).trans List.length_replicate
  rw [scaled_eq]
  refine ⟨rfl, rfl, rfl, rfl, .none, ⟨?_, ?_⟩⟩
  · rintro cell _ ⟨rfl, away⟩
    rw [blank away]
    exact (Cells.text?_blank _ _).symm
  · rintro cell _ ⟨rfl, -⟩
    rw [length]
    simp [Run.start, Cells.blank]

section Text

variable {unclaimed : Unclaimed} {serial : Nat} {pattern : String} {claims : List Claim} {tally : Tally}

/-- The steps that scale run in the order of the text. -/
theorem scales_ofClaims (progress : Scan.Progress (standard unclaimed) pattern claims tally) :
    scales (ofClaims (standard unclaimed) serial pattern claims).program =
      (claims.zipIdx.filter (·.1.step.action.isScale)).map fun item => (plannedStep serial item, item.2) := by
  have weight {item : Claim × Nat} (member : item ∈ claims.zipIdx) :
      item.1.step.weight = item.1.step.action.weight :=
    (progress.shape _ (List.fst_mem_of_mem_zipIdx member)).weight
  have apart : ∀ item ∈ claims.zipIdx, ∀ other ∈ claims.zipIdx, item.1.step.action.isScale = true →
      other.1.step.action.isScale = false → item.1.step.weight < other.1.step.weight := by
    intro item member other member' scale unscaled
    rw [weight member, weight member', Action.weight_of_isScale scale]
    rw [← Bool.not_eq_true, Action.isScale_iff] at unscaled
    omega
  have level : ∀ item ∈ claims.zipIdx.filter (·.1.step.action.isScale),
      item.1.step.weight = Weight.scale := by
    intro item member
    obtain ⟨member, scale⟩ := List.mem_filter.mp member
    rw [weight member, Action.weight_of_isScale scale]
  rw [program_ofClaims, scales, List.filter_map, ← arrange_level level, ← filter_arrange _ apart]
  congr 1
  apply List.filter_congr
  intro item member
  exact Action.isScale_placed _ _ _

theorem actions_scales (progress : Scan.Progress (standard unclaimed) pattern claims tally) :
    (scales (ofClaims (standard unclaimed) serial pattern claims).program).map (·.1.action) =
      (claims.map (·.step.action)).filter Action.isScale := by
  have cellless : claims.zipIdx.map (·.1.step.action) = claims.map (·.step.action) := by
    calc
      _ = (claims.zipIdx.map Prod.fst).map (·.step.action) := List.map_map.symm
      _ = claims.map (·.step.action) := by rw [List.zipIdx_map_fst]
  rw [scales_ofClaims progress, List.map_map, ← cellless, List.filter_map]
  apply List.map_congr_left
  intro item member
  obtain ⟨_, scale⟩ := List.mem_filter.mp member
  exact Scan.placed_of_plain (Action.plain_of_isScale scale) _ _

theorem cells_scales (progress : Scan.Progress (standard unclaimed) pattern claims tally) :
    (scales (ofClaims (standard unclaimed) serial pattern claims).program).Pairwise
      fun item other => item.2 < other.2 := by
  rw [scales_ofClaims progress, List.pairwise_map]
  exact (zipIdx_increasing claims).filter _

end Text

section Units

variable (regular : plan.Regular) (value : Float) (rounding : Float → Float) (locale : Locale)
  {before after : List (PlannedStep × Nat)} {step : PlannedStep} {cell : Nat}
include regular

omit value rounding locale in
/-- Before a step that scales there are only such steps. -/
theorem Regular.before_scale (order : plan.program = before ++ (step, cell) :: after)
    (scale : step.action.isScale = true) : ∀ item ∈ before ++ [(step, cell)], item.1.action.isScale = true := by
  have sorted := regular.sorted
  rw [order, List.pairwise_append] at sorted
  intro item member
  rcases List.mem_append.mp member with earlier | own
  · have lighter := sorted.2.2 item earlier (step, cell) List.mem_cons_self
    rw [Action.weight_of_isScale scale] at lighter
    exact Action.isScale_iff.mpr lighter
  · rw [List.mem_singleton.mp own]
    exact scale

omit value rounding locale in
/-- No other step has the cell. -/
theorem Regular.apart (order : plan.program = before ++ (step, cell) :: after) :
    (∀ item ∈ before, cell ≠ item.2) ∧ ∀ item ∈ after, cell ≠ item.2 := by
  have distinct := regular.distinct
  rw [order, List.map_append, List.map_cons, List.nodup_append, List.nodup_cons] at distinct
  obtain ⟨_, ⟨later, _⟩, earlier⟩ := distinct
  refine ⟨fun item member same => ?_, fun item member same => ?_⟩
  · exact earlier item.2 (List.mem_map_of_mem member) cell List.mem_cons_self same.symm
  · have there : item.2 ∈ after.map Prod.snd := List.mem_map_of_mem member
    rw [← same] at there
    exact later there

theorem Regular.unit_written (order : plan.program = before ++ (step, cell) :: after)
    (scale : step.action.isScale = true) :
    (plan.runAfter value rounding locale (before ++ [(step, cell)])).cells.text? cell =
      step.action.unit? locale (plan.runAfter value rounding locale before).value := by
  have light : ∀ item ∈ before, item.1.action.isScale = true := fun item member =>
    regular.before_scale order scale item (List.mem_append_left _ member)
  have plain : ∀ item ∈ before, ∀ step, item.1.action ≠ .custom step := fun item member =>
    Action.plain_of_isScale (light item member)
  have whole : (plan.runAfter value rounding locale before).remainder =
      Double.remainder (plan.runAfter value rounding locale before).value := by
    rw [runAfter, runAll_of_isScale light rfl]
  have blank : (plan.runAfter value rounding locale before).cells.text? cell = none :=
    blank_runAll plain (regular.apart order).1 (Cells.text?_blank _ _)
  rw [regular.runAfter_concat order, Action.perform_of_isScale scale whole, setting_locale]
  cases step.action.unit? locale (plan.runAfter value rounding locale before).value with
  | none => exact blank
  | some unit => exact Cells.text?_write_self (regular.cell_inside order)

/-- What a step that scales has written is there at the end. -/
theorem Regular.unit_finish (order : plan.program = before ++ (step, cell) :: after)
    (scale : step.action.isScale = true) :
    (plan.finish value rounding locale).cells.text? cell =
      (plan.runAfter value rounding locale (before ++ [(step, cell)])).cells.text? cell := by
  have turn := regular.turn order
  have unsigned : (plan.runAfter value rounding locale (before ++ [(step, cell)])).signCell = none := by
    rw [runAfter, runAll_of_isScale (regular.before_scale order scale) rfl]
    rfl
  have order' : plan.program = (before ++ [(step, cell)]) ++ after := by simp [order]
  rw [regular.finish_eq order']
  refine untouched_runAll (fun item member => ?_) (regular.apart order).2 (fun found => ?_)
    (fun found => ?_) (by simp [unsigned])
  · exact regular.plain item (by simp [order, member])
  · exact regular.unit_cell_ne found rfl turn.member scale rfl
  · exact regular.unit_cell_ne found rfl turn.member scale rfl

/-- Later steps see the scaled value and its remainder only. -/
theorem Regular.value_after (order : plan.program = before ++ after)
    (unscaled : ∀ item ∈ after, item.1.action.isScale = false) :
    (plan.runAfter value rounding locale before).value = (plan.scaled value rounding locale).value ∧
      (plan.runAfter value rounding locale before).remainder =
        (plan.scaled value rounding locale).remainder := by
  refine regular.run_induction (motive := fun _ run =>
    run.value = (plan.scaled value rounding locale).value ∧
      run.remainder = (plan.scaled value rounding locale).remainder) ⟨rfl, rfl⟩ ?_ order unscaled
  intro done item run turn still held
  have passes := (regular.effected turn rounding locale run).passes
  exact ⟨(passes.value still).trans held.1, (passes.remainder still).trans held.2⟩

/-- The steps that do not scale leave in their cells what they leave in a run of their own on the scaled
value. -/
theorem Regular.finish_corresponds :
    (plan.finish value rounding locale).Corresponds plan.Kept
      (runAll (plan.setting rounding locale) plan.others
        (Run.start (scaledBy ((scales plan.program).map (·.1.action)) value) plan.layout.size)) := by
  have whole : plan.finish value rounding locale =
      runAll (plan.setting rounding locale) plan.others (plan.scaled value rounding locale) :=
    regular.finish_eq regular.scales_first
  have plain : ∀ item ∈ plan.others, ∀ step, item.1.action ≠ .custom step := fun item member =>
    regular.plain item (List.mem_filter.mp member).1
  have paired : List.Forall₂ (Paired plan.Kept) plan.others plan.others := by
    refine List.forall₂_same.mpr fun item member => ⟨rfl, rfl, fun other unit same => ?_⟩
    obtain ⟨member, unscaled⟩ := List.mem_filter.mp member
    obtain ⟨member', scale⟩ := List.mem_filter.mp unit
    obtain rfl := regular.same_item member' member same
    simp [scale] at unscaled
  rw [whole]
  exact (regular.kept_scaled value rounding locale).runAll plan.kept_oneToOne
    (regular.kept_setting rounding locale) paired plain

end Units

/-- How a run of the plan on a value goes, when the steps that scale make it a number. -/
structure Scaling (plan : Plan) (claims : List Claim) (value : Float) (rounding : Float → Float)
    (locale : Locale) (number : Float) : Prop where
  /-- The steps that scale run before all others. -/
  first : plan.program = scales plan.program ++ plan.others
  /-- They run in the order of the text. -/
  order : (scales plan.program).map (·.1.action) = (claims.map (·.step.action)).filter Action.isScale
  cells : (scales plan.program).Pairwise fun item other => item.2 < other.2
  /-- After them the run is as it starts with the number, the cells apart. -/
  start : ({ plan.scaled value rounding locale with cells := Cells.blank plan.layout.size } : Run) =
    Run.start number plan.layout.size
  /-- The other steps leave in their cells what they leave in a run of their own on the number. -/
  rest : ∀ step cell, (step, cell) ∈ plan.program → step.action.isScale = false →
    (plan.finish value rounding locale).cells.text? cell =
      (runAll (plan.setting rounding locale) plan.others
        (Run.start number plan.layout.size)).cells.text? cell
  /-- The unit that a step writes stays. -/
  units : ∀ before step cell after, plan.program = before ++ (step, cell) :: after →
    step.action.isScale = true →
    (plan.runAfter value rounding locale (before ++ [(step, cell)])).cells.text? cell =
        step.action.unit? locale (plan.runAfter value rounding locale before).value ∧
      (plan.finish value rounding locale).cells.text? cell =
        (plan.runAfter value rounding locale (before ++ [(step, cell)])).cells.text? cell
  /-- No later step sees the value that was given or its remainder. -/
  later : ∀ before after, plan.program = before ++ after →
    (∀ item ∈ after, item.1.action.isScale = false) →
    (plan.runAfter value rounding locale before).value = number ∧
      (plan.runAfter value rounding locale before).remainder = Double.remainder number

/-- Scaling acts as a change of the value: the steps that scale, taken in the order of the text, make
one number of it, and all other steps do with the value what they do with that number. -/
theorem scaling_changes_value (unclaimed : Unclaimed) (serial : Nat) (pattern : String) (plan : Plan)
    (compiled : Plan.compile (standard unclaimed) serial pattern = .ok plan) :
    ∃ claims, Plan.scan (standard unclaimed) pattern = .ok claims ∧
      plan = Plan.ofClaims (standard unclaimed) serial pattern claims ∧
      ∀ value rounding locale, Scaling plan claims value rounding locale
        (scaledBy ((claims.map (·.step.action)).filter Action.isScale) value) := by
  have regular := regular_of_compile compiled
  cases scanned : scan (standard unclaimed) pattern with
  | error error =>
    rw [compile, scanned] at compiled
    cases compiled
  | ok claims =>
    rw [compile, scanned] at compiled
    cases compiled
    obtain ⟨tally, progress, finished⟩ := Scan.scan_eq_ok_iff.mp scanned
    refine ⟨claims, rfl, rfl, fun value rounding locale => ?_⟩
    have order : (scales (ofClaims (standard unclaimed) serial pattern claims).program).map (·.1.action) =
        (claims.map (·.step.action)).filter Action.isScale := actions_scales progress
    rw [← order]
    refine ⟨regular.scales_first, order, cells_scales progress, ?_, ?_, ?_, ?_⟩
    · rw [scaled_eq]
      rfl
    · intro step cell member unscaled
      apply (regular.finish_corresponds value rounding locale).cells.text
      refine ⟨rfl, fun item unit same => ?_⟩
      obtain ⟨member', scale⟩ := List.mem_filter.mp unit
      obtain rfl := regular.same_item member' member same
      cases scale.symm.trans unscaled
    · intro before step cell after order scale
      exact ⟨regular.unit_written value rounding locale order scale,
        regular.unit_finish value rounding locale order scale⟩
    · intro before after order unscaled
      obtain ⟨number, left⟩ := regular.value_after value rounding locale order unscaled
      rw [number, left, scaled_eq]
      exact ⟨rfl, rfl⟩

/-- A percentage and a unit of bytes on both sides of the integer: the left one scales first. -/
theorem scaling_changes_value_percent :
    ∃ plan claims, Plan.compile (standard .echo) 0 "%0b" = .ok plan ∧
      Scaling plan claims 20.5 id {} (scaledBy [.percent, .byteUnit] 20.5) := by
  let claims : List Claim :=
    [⟨⟨2⟩, { action := .percent, weight := Weight.scale }⟩,
      ⟨⟨7⟩, { action := .integer, weight := Weight.integer }⟩,
      ⟨⟨3⟩, { action := .byteUnit, weight := Weight.scale }⟩]
  have scanned : Plan.scan (standard .echo) "%0b" = .ok claims := rfl
  have compiled : Plan.compile (standard .echo) 0 "%0b" =
      .ok (Plan.ofClaims (standard .echo) 0 "%0b" claims) := by
    rw [compile, scanned]
    rfl
  obtain ⟨found, scanned', _, scaling⟩ := scaling_changes_value .echo 0 "%0b" _ compiled
  obtain rfl : claims = found := Except.ok.inj (scanned.symm.trans scanned')
  exact ⟨_, claims, compiled, scaling 20.5 id {}⟩

end Plan

end NumberPattern
