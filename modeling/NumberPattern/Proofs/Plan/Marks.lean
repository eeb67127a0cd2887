import Mathlib.Data.List.Forall2
import NumberPattern.Plan

/-! Plans up to the marks of their custom steps. The serial number of a compilation shows in the marks
alone, and no mark shows in what a plan renders. -/

namespace NumberPattern

namespace Action

/-- The action with one and the same mark on every custom step that was made for its claim. -/
def unmarked (action : Action) : Action := action.placed 0 0

@[simp] theorem unmarked_placed (action : Action) (serial cell : Nat) :
    (action.placed serial cell).unmarked = action.unmarked := by
  cases action with
  | custom step =>
    obtain ⟨mark, effect⟩ := step
    cases mark <;> rfl
  | _ => rfl

/-- The actions leave the same run and the same terms. -/
structure Alike (action other : Action) : Prop where
  perform : action.perform = other.perform
  termsAfter : action.termsAfter = other.termsAfter

theorem alike_unmarked (action : Action) : action.unmarked.Alike action := by
  cases action <;> exact ⟨rfl, rfl⟩

end Action

def PlannedStep.unmarked (step : PlannedStep) : PlannedStep := { step with action := step.action.unmarked }

/-- Answers that are equal in what is observed of them are both the same error, or neither is one. -/
theorem answers_cases {α β γ : Type} {observe : α → γ} {observe' : β → γ} {answer : Except Failure α}
    {other : Except Failure β} (same : answer.map observe = other.map observe') :
    (∃ error, answer = .error error ∧ other = .error error) ∨
      ∃ made made', answer = .ok made ∧ other = .ok made' ∧ observe made = observe' made' := by
  cases answer with
  | error error =>
    cases other with
    | error error' =>
      cases same
      exact Or.inl ⟨error, rfl, rfl⟩
    | ok made' => cases same
  | ok made =>
    cases other with
    | error error' => cases same
    | ok made' => exact Or.inr ⟨made, made', rfl, rfl, Except.ok.inj same⟩

namespace Plan

/-- Plans without their marks are equal when nothing but the identity of custom steps tells the plans
apart. -/
def unmarked (plan : Plan) : Plan := { plan with steps := plan.steps.map PlannedStep.unmarked }

variable {lexicon : Lexicon} {pattern : String}

theorem unmarked_ofClaims (serial other : Nat) (claims : List Claim) :
    (ofClaims lexicon serial pattern claims).unmarked =
      (ofClaims lexicon other pattern claims).unmarked := by
  simp [unmarked, ofClaims, PlannedStep.unmarked, plannedStep, Function.comp_def]

/-- When a pattern is compiled again, the same plan comes out up to the marks. -/
theorem unmarked_compile (serial other : Nat) :
    (compile lexicon serial pattern).map unmarked = (compile lexicon other pattern).map unmarked := by
  rw [compile, compile]
  cases scan lexicon pattern with
  | error error => rfl
  | ok claims => exact congrArg Except.ok (unmarked_ofClaims serial other claims)

/-- Runs over steps that are alike in pairs come to the same. -/
theorem runAll_congr {steps others : List PlannedStep}
    (alike : List.Forall₂ (fun step other => step.action.Alike other.action) steps others)
    (setting : Setting) (cells : List Nat) (run : Run) :
    runAll setting (steps.zip cells) run = runAll setting (others.zip cells) run := by
  induction alike generalizing setting cells run with
  | nil => rfl
  | cons first _ ih =>
    cases cells with
    | nil => rfl
    | cons cell cells =>
      rw [List.zip_cons_cons, List.zip_cons_cons, runAll, runAll, first.perform, first.termsAfter]
      exact ih ..

theorem render_unmarked (plan : Plan) : plan.unmarked.render = plan.render := by
  have alike : List.Forall₂ (fun step other => step.action.Alike other.action) plan.unmarked.steps
      plan.steps := by
    rw [Plan.unmarked, List.forall₂_map_left_iff, List.forall₂_same]
    exact fun step _ => step.action.alike_unmarked
  funext value rounding locale
  exact congrArg (fun run => run.cells.joined) (runAll_congr alike ..)

/-- Plans that are equal up to the marks render the same. -/
theorem render_congr {plan other : Plan} (same : plan.unmarked = other.unmarked) :
    plan.render = other.render := by
  rw [← render_unmarked plan, same, render_unmarked]

end Plan

end NumberPattern
