import NumberPattern.Proofs.Plan.Turn
import NumberPattern.Proofs.Run.Effect
import NumberPattern.Proofs.Run.Terms

/-! The run of a regular plan: the steps that scale the value come first, and what holds after them and
is kept by each later step holds after every prefix of the program. -/

namespace NumberPattern

namespace Action

theorem isScale_iff {action : Action} : action.isScale = true ↔ action.weight ≤ Weight.scale := by
  have light (token : Token) : token.weight ≤ Weight.scale ↔
      token = .percent ∨ token = .byteUnit ∨ token = .abbreviation := by cases token <;> decide
  have heavy : ¬ Weight.literal ≤ Weight.scale := by decide
  cases action <;> simp [isScale, weight, token?, light, heavy]

theorem plain_of_isScale {action : Action} (scale : action.isScale = true) :
    ∀ step, action ≠ .custom step := by
  rintro step rfl
  cases scale

theorem bearer_of_isScale {action : Action} (scale : action.isScale = true) (setting : Setting) (cell : Nat)
    (run : Run) : action.bearer setting cell run = run.signCell := by
  cases action with
  | percent | byteUnit | abbreviate => rfl
  | _ => cases scale

end Action

namespace Plan

variable {setting : Setting} {items more : List (PlannedStep × Nat)} {item : PlannedStep × Nat} {run : Run}

@[simp] theorem setting_locale (plan : Plan) (rounding : Float → Float) (locale : Locale) :
    (plan.setting rounding locale).locale = locale := rfl

@[simp] theorem setting_layout (plan : Plan) (rounding : Float → Float) (locale : Locale) :
    (plan.setting rounding locale).layout = plan.layout := rfl

theorem length_runAll (plain : ∀ item ∈ items, ∀ step, item.1.action ≠ .custom step) :
    (runAll setting items run).cells.texts.length = run.cells.texts.length := by
  induction items generalizing run with
  | nil => rfl
  | cons item items ih =>
    obtain ⟨first, others⟩ := List.forall_mem_cons.mp plain
    rw [runAll_cons first]
    exact (ih others).trans (Action.effected_perform first).length

/-- A blank cell stays blank until a step of its own. -/
theorem blank_runAll {cell : Nat} (plain : ∀ item ∈ items, ∀ step, item.1.action ≠ .custom step)
    (away : ∀ item ∈ items, cell ≠ item.2) (blank : run.cells.text? cell = none) :
    (runAll setting items run).cells.text? cell = none := by
  induction items generalizing run with
  | nil => exact blank
  | cons item items ih =>
    obtain ⟨first, others⟩ := List.forall_mem_cons.mp plain
    obtain ⟨apart, away⟩ := List.forall_mem_cons.mp away
    rw [runAll_cons first]
    apply ih others away
    rw [(Action.effected_perform first).other cell apart, blank, Action.touch_none]

/-- What scaling leaves as it was at the start. -/
theorem unsigned_runAll (scale : ∀ item ∈ items, item.1.action.isScale = true) :
    (runAll setting items run).signCell = run.signCell ∧
      (runAll setting items run).fraction = run.fraction ∧
      (runAll setting items run).optionalPoint = run.optionalPoint := by
  induction items generalizing run with
  | nil => exact ⟨rfl, rfl, rfl⟩
  | cons item items ih =>
    obtain ⟨first, others⟩ := List.forall_mem_cons.mp scale
    have plain := Action.plain_of_isScale first
    have effected : Action.Effected setting item.2 run item.1.action
        (item.1.action.perform setting item.2 run) := Action.effected_perform plain
    have passed := effected.passes
    have rest := @ih (item.1.action.perform setting item.2 run) others
    rw [runAll_cons plain]
    refine ⟨rest.1.trans ?_, rest.2.1.trans (passed.fraction ?_), rest.2.2.trans (passed.optionalPoint ?_)⟩
    · rw [effected.signCell, Action.bearer_of_isScale first]
    · intro same
      rw [same] at first
      cases first
    · intro optional same
      rw [same] at first
      cases first

/-- The steps of a program that scale the value. -/
def scales (items : List (PlannedStep × Nat)) : List (PlannedStep × Nat) :=
  items.filter (·.1.action.isScale)

/-- The run after the steps that scale the value. -/
def scaled (plan : Plan) (value : Float) (rounding : Float → Float) (locale : Locale) : Run :=
  runAll (plan.setting rounding locale) (scales plan.program) (Run.start value plan.layout.size)

/-- The run after some steps of the plan. -/
def runAfter (plan : Plan) (value : Float) (rounding : Float → Float) (locale : Locale)
    (done : List (PlannedStep × Nat)) : Run :=
  runAll (plan.setting rounding locale) done (Run.start value plan.layout.size)

theorem runAfter_concat (plan : Plan) (value : Float) (rounding : Float → Float) (locale : Locale)
    {done : List (PlannedStep × Nat)} (plain : ∀ item ∈ done, ∀ step, item.1.action ≠ .custom step)
    (item : PlannedStep × Nat) :
    plan.runAfter value rounding locale (done ++ [item]) =
      item.1.action.perform (plan.setting rounding locale) item.2
        (plan.runAfter value rounding locale done) := runAll_concat plain

/-- In a program sorted by weight the scaling comes first. -/
theorem scales_append
    (sorted : items.Pairwise fun item other => item.1.action.weight ≤ other.1.action.weight) :
    scales items ++ items.filter (!·.1.action.isScale) = items := by
  induction items with
  | nil => rfl
  | cons item items ih =>
    obtain ⟨first, sorted⟩ := List.pairwise_cons.mp sorted
    by_cases scale : item.1.action.isScale = true
    · simpa [scales, scale] using ih sorted
    · have none (other : PlannedStep × Nat) (member : other ∈ items) : ¬ other.1.action.isScale = true := by
        rw [Action.isScale_iff] at scale ⊢
        have := first other member
        omega
      have bare : scales items = [] := List.filter_eq_nil_iff.mpr none
      have whole : items.filter (!·.1.action.isScale) = items :=
        List.filter_eq_self.mpr fun other member => by simpa using none other member
      rw [scales] at bare
      simp [scales, scale, bare, whole]

variable {plan : Plan} {value : Float} {rounding : Float → Float} {locale : Locale}
  {done rest : List (PlannedStep × Nat)}

theorem Regular.plain_prefix (regular : plan.Regular) (order : plan.program = done ++ rest) :
    ∀ item ∈ done, ∀ step, item.1.action ≠ .custom step := fun item earlier =>
  regular.plain item (by simp [order, earlier])

theorem Regular.runAfter_concat (regular : plan.Regular) (order : plan.program = done ++ item :: rest) :
    plan.runAfter value rounding locale (done ++ [item]) =
      item.1.action.perform (plan.setting rounding locale) item.2
        (plan.runAfter value rounding locale done) :=
  plan.runAfter_concat value rounding locale (regular.plain_prefix order) item

/-- A regular plan runs to the end from where it got. -/
theorem Regular.runAfter_append (regular : plan.Regular) (order : plan.program = done ++ more ++ rest) :
    plan.runAfter value rounding locale (done ++ more) =
      runAll (plan.setting rounding locale) more (plan.runAfter value rounding locale done) :=
  runAll_append_of_plain (regular.plain_prefix (order.trans (List.append_assoc ..)))

theorem Regular.finish_eq (regular : plan.Regular) (order : plan.program = done ++ rest) :
    plan.finish value rounding locale =
      runAll (plan.setting rounding locale) rest (plan.runAfter value rounding locale done) := by
  rw [finish, ← program, order]
  exact runAll_append_of_plain (regular.plain_prefix order)

/-- What the next step of a regular plan does to a run. -/
theorem Regular.effected (regular : plan.Regular) (turn : Turn plan done item) (rounding : Float → Float)
    (locale : Locale) (run : Run) :
    Action.Effected (plan.setting rounding locale) item.2 run item.1.action
      (item.1.action.perform (plan.setting rounding locale) item.2 run) :=
  Action.effected_perform (regular.plain item turn.member)

/-- A run has a cell for each step of the plan. -/
theorem Regular.cell_inside {step : PlannedStep} {cell : Nat} (regular : plan.Regular)
    (order : plan.program = done ++ (step, cell) :: rest) :
    cell < (plan.runAfter value rounding locale done).cells.texts.length := by
  rw [runAfter, length_runAll (regular.plain_prefix order)]
  simpa [Run.start, Cells.blank] using regular.inside _ (regular.turn order).member

/-- Behind a step that does not scale there is no scaling. -/
theorem Regular.unscaled (regular : plan.Regular) (order : plan.program = done ++ item :: rest)
    (unscaled : item.1.action.isScale = false) :
    ∀ other ∈ item :: rest, other.1.action.isScale = false := by
  have sorted := regular.sorted
  rw [order, List.pairwise_append, List.pairwise_cons] at sorted
  refine List.forall_mem_cons.mpr ⟨unscaled, fun other member => ?_⟩
  have heavier := sorted.2.1.1 other member
  rw [← Bool.not_eq_true, Action.isScale_iff] at unscaled ⊢
  omega

/-- What each step of a stretch keeps in its turn holds behind the stretch. -/
theorem Regular.run_stretch (regular : plan.Regular) {motive : List (PlannedStep × Nat) → Run → Prop}
    (step : ∀ done item run, Turn plan done item → item.1.action.isScale = false → motive done run →
      motive (done ++ [item]) (item.1.action.perform (plan.setting rounding locale) item.2 run))
    (order : plan.program = done ++ (more ++ rest))
    (unscaled : ∀ item ∈ more, item.1.action.isScale = false)
    (held : motive done (plan.runAfter value rounding locale done)) :
    motive (done ++ more) (plan.runAfter value rounding locale (done ++ more)) := by
  induction more generalizing done with
  | nil => simpa using held
  | cons item more ih =>
    obtain ⟨first, others⟩ := List.forall_mem_cons.mp unscaled
    have kept := step done item _ (regular.turn order) first held
    rw [← regular.runAfter_concat order] at kept
    have next := @ih (done ++ [item]) (by simpa using order) others kept
    simpa using next

/-- What holds after the scaling and is kept by each later step in its turn holds after every prefix of
the program that has all of the scaling. -/
theorem Regular.run_induction (regular : plan.Regular) {motive : List (PlannedStep × Nat) → Run → Prop}
    (start : motive (scales plan.program) (plan.scaled value rounding locale))
    (step : ∀ done item run, Turn plan done item → item.1.action.isScale = false → motive done run →
      motive (done ++ [item]) (item.1.action.perform (plan.setting rounding locale) item.2 run))
    (order : plan.program = done ++ rest) (unscaled : ∀ item ∈ rest, item.1.action.isScale = false) :
    motive done (plan.runAfter value rounding locale done) := by
  -- the prefix is all of the scaling and then a stretch without any
  have sorted := regular.sorted
  rw [order, List.pairwise_append] at sorted
  have split := scales_append sorted.1
  have flat : scales rest = [] :=
    List.filter_eq_nil_iff.mpr fun item member => by simp [unscaled item member]
  have same : scales plan.program = scales done := by
    rw [order, scales, List.filter_append]
    change scales done ++ scales rest = _
    rw [flat, List.append_nil]
  rw [same] at start
  rw [← split]
  have order : plan.program = scales done ++ (done.filter (!·.1.action.isScale) ++ rest) := by
    rw [← List.append_assoc, split, order]
  refine regular.run_stretch step order ?_ ?_
  · intro item member
    simpa using (List.mem_filter.mp member).2
  · rw [scaled, same] at start
    exact start

end Plan

end NumberPattern
