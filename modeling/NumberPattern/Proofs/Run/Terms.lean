import NumberPattern.Plan

/-! The terms that the steps of a plan go by. A step of the user may change them for the steps after it;
all other steps leave them as they are. -/

namespace NumberPattern

theorem Action.termsAfter_of_plain {action : Action} (plain : ∀ step, action ≠ .custom step)
    (setting : Setting) (cell : Nat) (run : Run) : action.termsAfter setting cell run = setting.toTerms := by
  cases action with
  | custom step => exact absurd rfl (plain step)
  | _ => rfl

namespace Plan

variable {setting : Setting} {items more : List (PlannedStep × Nat)} {item : PlannedStep × Nat} {run : Run}

/-- The setting that some steps leave to the steps after them. -/
def settingAfter : Setting → List (PlannedStep × Nat) → Run → Setting
  | setting, [], _ => setting
  | setting, (step, cell) :: rest, run =>
      settingAfter ⟨step.action.termsAfter setting cell run, setting.layout⟩ rest
        (step.action.perform setting cell run)

theorem runAll_append : runAll setting (items ++ more) run =
    runAll (settingAfter setting items run) more (runAll setting items run) := by
  induction items generalizing setting run with
  | nil => rfl
  | cons item items ih => exact ih

theorem settingAfter_of_plain (plain : ∀ item ∈ items, ∀ step, item.1.action ≠ .custom step) :
    settingAfter setting items run = setting := by
  induction items generalizing run with
  | nil => rfl
  | cons item items ih =>
    obtain ⟨first, others⟩ := List.forall_mem_cons.mp plain
    rw [settingAfter, Action.termsAfter_of_plain first]
    exact ih others

/-- Behind a step that is not of a user, the others run in the same setting. -/
theorem runAll_cons (plain : ∀ step, item.1.action ≠ .custom step) : runAll setting (item :: items) run =
    runAll setting items (item.1.action.perform setting item.2 run) := by
  rw [runAll, Action.termsAfter_of_plain plain]

theorem runAll_append_of_plain (plain : ∀ item ∈ items, ∀ step, item.1.action ≠ .custom step) :
    runAll setting (items ++ more) run = runAll setting more (runAll setting items run) := by
  rw [runAll_append, settingAfter_of_plain plain]

theorem runAll_concat (plain : ∀ item ∈ items, ∀ step, item.1.action ≠ .custom step) :
    runAll setting (items ++ [item]) run =
      item.1.action.perform setting item.2 (runAll setting items run) := runAll_append_of_plain plain

end Plan

end NumberPattern
