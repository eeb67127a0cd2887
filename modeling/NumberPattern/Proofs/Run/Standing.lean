import NumberPattern.Proofs.Double.Order
import NumberPattern.Proofs.Run.Program

/-! What every prefix of a program leaves standing: the scaled value, blank cells for all that did not
run, and the sign at the cell of one token, which the tokens that ran determine. -/

namespace NumberPattern

namespace Token

/-- Tokens whose cell holds a mark of the sign or nothing. -/
def isMark : Token → Bool
  | openParen | closeParen | plus | minus => true
  | _ => false

def mark (token : Token) (value : Float) : Option String :=
  match token with
  | openParen => if value < 0.0 then some "(" else none
  | closeParen => if value < 0.0 then some ")" else none
  | minus => if value < 0.0 then some "-" else none
  | plus => if 0.0 < value then some "+" else none
  | _ => none

theorem isSingle_of_isMark {token : Token} (marks : token.isMark = true) : token.isSingle = true := by
  cases token <;> first | rfl | cases marks

end Token

namespace Plan

/-- The cell that shows the sign of a value once these tokens ran. Of a negative value it is the last
token that takes the sign to itself; a closing parenthesis takes it from the others and shows it
nowhere. -/
def bearer (plan : Plan) (value remainder : Float) (ran : Token → Bool) : Option Nat :=
  if value < 0.0 then
    if ran .minus then plan.layout.tokenCell? .minus
    else if ran .currency && plan.carriesSign && !plan.has .closeParen then plan.layout.tokenCell? .currency
    else if ran .closeParen then none
    else if ran .integer then plan.layout.tokenCell? .integer
    else if ran .point && !(plan.optionalPoint && remainder == 0.0) then plan.layout.tokenCell? .point
    else none
  else if 0.0 < value then
    if ran .plus then plan.layout.tokenCell? .plus else none
  else none

/-- What holds of a run after the steps that are done. -/
structure Standing (plan : Plan) (value remainder : Float) (done : List (PlannedStep × Nat)) (run : Run) :
    Prop where
  scaled : run.value = value
  left : run.remainder = remainder
  length : run.cells.texts.length = plan.layout.size
  bearer : run.signCell = plan.bearer value remainder (ran done)
  blank : ∀ token cell, plan.layout.tokenCell? token = some cell → ran done token = false →
    run.cells.text? cell = none
  mark : ∀ token cell, token.isMark = true → plan.layout.tokenCell? token = some cell →
    ran done token = true → run.cells.text? cell = token.mark value
  /-- An optional point is not written for a value without a fraction. -/
  unwritten : ∀ cell, plan.layout.tokenCell? .point = some cell →
    (plan.optionalPoint && remainder == 0.0) = true → run.cells.text? cell = none

variable {plan : Plan} {value remainder : Float} {rounding : Float → Float} {locale : Locale}
  {done : List (PlannedStep × Nat)} {item : PlannedStep × Nat} {run : Run} {token : Token}

/-- The sign is shown at the cell of a token that ran. -/
theorem token_of_bearer {ran : Token → Bool} {cell : Nat}
    (shown : plan.bearer value remainder ran = some cell) :
    ∃ token : Token, plan.layout.tokenCell? token = some cell ∧ ran token = true ∧
      (token = .plus ∧ 0.0 < value ∨
        (token = .minus ∨ token = .currency ∨ token = .integer ∨ token = .point) ∧ value < 0.0) := by
  unfold bearer at shown
  split at shown
  next negative =>
    split at shown
    next minus => exact ⟨.minus, shown, minus, Or.inr ⟨by simp, negative⟩⟩
    split at shown
    next currency =>
      simp only [Bool.and_eq_true] at currency
      exact ⟨.currency, shown, currency.1.1, Or.inr ⟨by simp, negative⟩⟩
    split at shown
    · cases shown
    split at shown
    next integer => exact ⟨.integer, shown, integer, Or.inr ⟨by simp, negative⟩⟩
    split at shown
    next point =>
      simp only [Bool.and_eq_true] at point
      exact ⟨.point, shown, point.1, Or.inr ⟨by simp, negative⟩⟩
    · cases shown
  next =>
    split at shown
    next positive =>
      split at shown
      next plus => exact ⟨.plus, shown, plus, Or.inl ⟨rfl, positive⟩⟩
      · cases shown
    · cases shown

theorem bearer_congr {before after : Token → Bool}
    (same : ∀ token ∈ [Token.minus, .currency, .closeParen, .integer, .point, .plus],
      after token = before token) :
    plan.bearer value remainder after = plan.bearer value remainder before := by
  simp only [List.forall_mem_cons] at same
  obtain ⟨minus, currency, closeParen, integer, point, plus, _⟩ := same
  simp only [bearer, minus, currency, closeParen, integer, point, plus]

/-- A single token that has its turn does not show the sign yet. -/
theorem Standing.not_bearer (standing : Standing plan value remainder done run) (turn : Turn plan done item)
    (kind : item.1.action.token? = some token) (single : token.isSingle = true) :
    run.signCell ≠ some item.2 := by
  rw [standing.bearer]
  intro shown
  obtain ⟨other, found, ran, _⟩ := token_of_bearer shown
  by_cases same : item.1.action.token? = some other
  · rw [kind, Option.some.injEq] at same
    rw [← same, turn.fresh token kind single] at ran
    cases ran
  · exact turn.foreign other _ found same rfl

theorem Standing.isNegative (standing : Standing plan value remainder done run) :
    run.isNegative = decide (value < 0.0) := by
  rw [Run.isNegative, standing.scaled]

theorem Standing.inside (standing : Standing plan value remainder done run) (regular : plan.Regular)
    (turn : Turn plan done item) : item.2 < run.cells.texts.length := by
  rw [standing.length]
  exact regular.inside item turn.member

/-- A negative value is in parentheses when the currency symbol has its turn, if the plan closes one. -/
theorem Standing.isWrapped (standing : Standing plan value remainder done run) (regular : plan.Regular)
    (turn : Turn plan done item) {carriesSign : Bool} (symbol : item.1.action = .currency carriesSign)
    (negative : value < 0.0) (rounding : Float → Float) (locale : Locale) :
    Sign.isWrapped (plan.setting rounding locale) run = plan.has .closeParen := by
  have kind : item.1.action.token? = some .currency := congrArg Action.token? symbol
  have present : (plan.layout.tokenCell? .closeParen).isSome = plan.has .closeParen :=
    regular.tokenCell_isSome rfl
  have closed : ran done .closeParen = plan.has .closeParen := turn.earlier kind (by decide)
  simp only [Sign.isWrapped, setting]
  cases found : plan.layout.tokenCell? .closeParen with
  | none => rw [← present, found]; rfl
  | some cell =>
    rw [found] at present
    rw [← present] at closed ⊢
    simp [Cells.isFilled, standing.mark .closeParen cell rfl found closed, Token.mark, negative]

section Bearer

variable (standing : Standing plan value remainder done run) (turn : Turn plan done item)
include standing turn

theorem bearer_closeParen (action : item.1.action = .closeParen) (setting : Setting) :
    Action.closeParen.bearer setting item.2 run = plan.bearer value remainder (ran (done ++ [item])) := by
  have kind : item.1.action.token? = some .closeParen := congrArg Action.token? action
  have minus : ran done .minus = false := turn.later kind (by decide)
  have currency : ran done .currency = false := turn.later kind (by decide)
  simp only [Action.bearer, standing.isNegative, standing.bearer, bearer, ran_append, ran_singleton,
    kind, minus, currency]
  by_cases negative : value < 0.0
  · simp [negative]
  · simp [negative]

variable (regular : plan.Regular)
include regular

theorem bearer_plus (action : item.1.action = .plus) (setting : Setting) :
    Action.plus.bearer setting item.2 run = plan.bearer value remainder (ran (done ++ [item])) := by
  have kind : item.1.action.token? = some .plus := congrArg Action.token? action
  have cell := regular.cell item turn.member .plus kind rfl
  have minus : ran done .minus = false := turn.later kind (by decide)
  have currency : ran done .currency = false := turn.later kind (by decide)
  have closeParen : ran done .closeParen = false := turn.later kind (by decide)
  have integer : ran done .integer = false := turn.later kind (by decide)
  have point : ran done .point = false := turn.later kind (by decide)
  simp only [Action.bearer, standing.scaled, standing.bearer, bearer, ran_append, ran_singleton,
    kind, minus, currency, closeParen, integer, point]
  by_cases positive : 0.0 < value
  · simp [positive, Double.lt_asymm positive, cell]
  · simp [positive]

theorem bearer_integer (action : item.1.action = .integer) (setting : Setting) :
    Action.integer.bearer setting item.2 run = plan.bearer value remainder (ran (done ++ [item])) := by
  have kind : item.1.action.token? = some .integer := congrArg Action.token? action
  have cell := regular.cell item turn.member .integer kind rfl
  have minus : ran done .minus = false := turn.later kind (by decide)
  have currency : ran done .currency = false := turn.later kind (by decide)
  have closeParen : ran done .closeParen = false := turn.later kind (by decide)
  simp only [Action.bearer, standing.isNegative, standing.bearer, bearer, ran_append, ran_singleton,
    kind, minus, currency, closeParen]
  by_cases negative : value < 0.0
  · simp [negative, cell]
  · simp [negative]

theorem bearer_point {optional : Bool} (action : item.1.action = .point optional) (setting : Setting) :
    (Action.point optional).bearer setting item.2 run =
      plan.bearer value remainder (ran (done ++ [item])) := by
  have kind : item.1.action.token? = some .point := congrArg Action.token? action
  have cell := regular.cell item turn.member .point kind rfl
  have minus : ran done .minus = false := turn.later kind (by decide)
  have currency : ran done .currency = false := turn.later kind (by decide)
  have closeParen : ran done .closeParen = false := turn.later kind (by decide)
  have point : ran done .point = false := turn.fresh .point kind rfl
  -- the point shows the sign only if nothing does yet, so where the pattern has no integer
  have integer : (plan.layout.tokenCell? .integer).isSome = ran done .integer := by
    rw [regular.tokenCell_isSome rfl, turn.earlier kind (by decide)]
  simp only [Action.bearer, standing.isNegative, standing.bearer, bearer, ran_append, ran_singleton,
    kind, minus, currency, closeParen, point, Amount.writesPoint, standing.left,
    regular.optionalPoint_eq turn.member action]
  by_cases negative : value < 0.0
  · cases before : ran done .integer with
    | true =>
      obtain ⟨found, known⟩ := Option.isSome_iff_exists.mp (integer.trans before)
      simp [negative, known]
    | false => simp [negative, cell]
  · simp [negative]

theorem bearer_currency {carriesSign : Bool} (action : item.1.action = .currency carriesSign)
    (rounding : Float → Float) (locale : Locale) :
    (Action.currency carriesSign).bearer (plan.setting rounding locale) item.2 run =
      plan.bearer value remainder (ran (done ++ [item])) := by
  have kind : item.1.action.token? = some .currency := congrArg Action.token? action
  have cell := regular.cell item turn.member .currency kind rfl
  have minus : ran done .minus = false := turn.later kind (by decide)
  have currency : ran done .currency = false := turn.fresh .currency kind rfl
  simp only [Action.bearer, Action.takesSign, standing.isNegative, standing.bearer, bearer, ran_append,
    ran_singleton, kind, minus, currency, regular.carriesSign_eq turn.member action]
  by_cases negative : value < 0.0
  · rw [standing.isWrapped regular turn action negative]
    simp [negative, cell]
  · simp [negative]

theorem bearer_minus (action : item.1.action = .minus) (setting : Setting) :
    Action.minus.bearer setting item.2 run = plan.bearer value remainder (ran (done ++ [item])) := by
  have kind : item.1.action.token? = some .minus := congrArg Action.token? action
  have cell := regular.cell item turn.member .minus kind rfl
  simp only [Action.bearer, standing.isNegative, standing.bearer, bearer, ran_append, ran_singleton, kind]
  by_cases negative : value < 0.0
  · simp [negative, cell]
  · simp [negative]

/-- The bearer after a step, one case per action that can change it. -/
theorem bearer_perform (rounding : Float → Float) (locale : Locale) :
    item.1.action.bearer (plan.setting rounding locale) item.2 run =
      plan.bearer value remainder (ran (done ++ [item])) := by
  cases action : item.1.action with
  | plus => exact bearer_plus standing turn regular action _
  | integer => exact bearer_integer standing turn regular action _
  | point optional => exact bearer_point standing turn regular action _
  | closeParen => exact bearer_closeParen standing turn action _
  | currency carriesSign => exact bearer_currency standing turn regular action rounding locale
  | minus => exact bearer_minus standing turn regular action _
  | _ =>
    refine standing.bearer.trans (bearer_congr fun token member => ?_).symm
    simp only [List.mem_cons, List.not_mem_nil, or_false] at member
    rcases member with rfl | rfl | rfl | rfl | rfl | rfl <;> simp [action, Action.token?]

end Bearer

theorem mark_perform {action : Action} {setting : Setting} {cell : Nat} (kind : action.token? = some token)
    (marks : token.isMark = true) (inside : cell < run.cells.texts.length)
    (blank : run.cells.text? cell = none) :
    (action.perform setting cell run).cells.text? cell = token.mark run.value := by
  have sign : run.isNegative = decide (run.value < 0.0) := rfl
  have inside' : cell < (Sign.takeBack run).cells.texts.length := by
    rw [Action.length_takeBack]
    exact inside
  cases action with
  | openParen =>
    cases kind
    by_cases negative : run.value < 0.0 <;>
      simp [Action.perform, Sign.openParen, sign, negative, Token.mark, Run.write, inside, blank]
  | closeParen =>
    cases kind
    by_cases negative : run.value < 0.0 <;>
      simp [Action.perform, Sign.closeParen, sign, negative, Token.mark, Run.write, inside', blank]
  | minus =>
    cases kind
    by_cases negative : run.value < 0.0 <;>
      simp [Action.perform, Sign.minus, sign, negative, Token.mark, Run.write, inside', blank]
  | plus =>
    cases kind
    by_cases positive : 0.0 < run.value <;>
      simp [Action.perform, Sign.plus, positive, Token.mark, Run.write, inside, blank]
  | _ => cases kind <;> cases marks

/-- When a step takes the sign, no mark shows it: the minus runs last. -/
theorem Standing.mark_not_bearer (standing : Standing plan value remainder done run) (regular : plan.Regular)
    (turn : Turn plan done item) {setting : Setting} {cell : Nat} (marks : token.isMark = true)
    (found : plan.layout.tokenCell? token = some cell) (foreign : item.1.action.token? ≠ some token)
    (taken : item.1.action.takes setting run = true) : run.signCell ≠ some cell := by
  rw [standing.bearer]
  intro shown
  have negative := Action.isNegative_of_takes taken
  rw [standing.isNegative, decide_eq_true_eq] at negative
  obtain ⟨other, known, ran, ⟨_, positive⟩ | ⟨kinds, _⟩⟩ := token_of_bearer shown
  · exact Double.lt_asymm negative positive
  · obtain rfl := regular.token_of_cell known found
    rcases kinds with rfl | rfl | rfl | rfl
    · rcases Action.token_of_takes taken with kind | kind | kind
      · rw [turn.later kind (by decide)] at ran
        cases ran
      · rw [turn.later kind (by decide)] at ran
        cases ran
      · exact foreign kind
    all_goals cases marks

section Step

variable (standing : Standing plan value remainder done run) (regular : plan.Regular) (turn : Turn plan done item)
  (rounding : Float → Float) (locale : Locale)
include standing regular turn

theorem Standing.blank_step {cell : Nat} (found : plan.layout.tokenCell? token = some cell)
    (idle : ran (done ++ [item]) token = false) :
    (item.1.action.perform (plan.setting rounding locale) item.2 run).cells.text? cell = none := by
  have effected := regular.effected turn rounding locale run
  obtain ⟨before, other⟩ := ran_concat_eq_false.mp idle
  rw [effected.other cell (turn.foreign token cell found other), standing.blank token cell found before,
    Action.touch_none]

theorem Standing.mark_step {cell : Nat} (marks : token.isMark = true)
    (found : plan.layout.tokenCell? token = some cell) (past : ran (done ++ [item]) token = true) :
    (item.1.action.perform (plan.setting rounding locale) item.2 run).cells.text? cell = token.mark value := by
  have effected := regular.effected turn rounding locale run
  by_cases own : item.1.action.token? = some token
  · have single := Token.isSingle_of_isMark marks
    obtain rfl := regular.own_cell turn.member found own single
    have blank := standing.blank token _ found (turn.fresh token own single)
    rw [mark_perform own marks (standing.inside regular turn) blank, standing.scaled]
  · -- another step takes at most a sign, and the mark does not lose it
    have apart (other : Token) (different : other.isMark = false) :
        plan.layout.tokenCell? other ≠ some cell := by
      apply regular.cell_ne found
      rintro rfl
      cases marks.symm.trans different
    have written := standing.mark token cell marks found ((ran_concat.mp past).resolve_right own)
    rw [effected.text_other (turn.foreign token cell found own) (fun _ => apart .integer rfl)
      (fun _ => apart .point rfl), written, Action.stripped, if_neg]
    rintro ⟨taken, shown⟩
    exact standing.mark_not_bearer regular turn marks found own taken shown

theorem Standing.unwritten_step {cell : Nat} (found : plan.layout.tokenCell? .point = some cell)
    (left_out : (plan.optionalPoint && remainder == 0.0) = true) :
    (item.1.action.perform (plan.setting rounding locale) item.2 run).cells.text? cell = none := by
  have effected := regular.effected turn rounding locale run
  have blank := standing.unwritten cell found left_out
  by_cases own : item.1.action.token? = some .point
  · obtain rfl := regular.own_cell turn.member found own rfl
    obtain ⟨optional, action⟩ := Action.eq_point own
    rw [regular.optionalPoint_eq turn.member action, ← standing.left] at left_out
    rw [action, Action.perform, Action.point_perform optional (standing.inside regular turn), blank,
      Amount.writesPoint, left_out]
    rfl
  · rw [effected.other cell (turn.foreign .point cell found own), blank, Action.touch_none]

/-- Each step keeps what stands. -/
theorem Standing.step (unscaled : item.1.action.isScale = false) :
    Standing plan value remainder (done ++ [item])
      (item.1.action.perform (plan.setting rounding locale) item.2 run) := by
  have effected := regular.effected turn rounding locale run
  refine ⟨?_, ?_, ?_, ?_, ?_, ?_, ?_⟩
  · exact (effected.passes.value unscaled).trans standing.scaled
  · exact (effected.passes.remainder unscaled).trans standing.left
  · exact effected.length.trans standing.length
  · exact effected.signCell.trans (bearer_perform standing turn regular rounding locale)
  · intro token cell found idle
    exact standing.blank_step regular turn rounding locale found idle
  · intro token cell marks found past
    exact standing.mark_step regular turn rounding locale marks found past
  · intro cell found left_out
    exact standing.unwritten_step regular turn rounding locale found left_out

end Step

theorem ran_scales {items : List (PlannedStep × Nat)} (heavy : Weight.scale < token.weight) :
    ran (scales items) token = false := by
  apply ran_eq_false.mpr
  intro item member kind
  have scale := (List.mem_filter.mp member).2
  rw [Action.isScale_iff, weight_of_token kind] at scale
  omega

/-- Scaling writes to its own cells and shows no sign. -/
theorem standing_scaled (regular : plan.Regular) (number : Float) (rounding : Float → Float)
    (locale : Locale) :
    Standing plan (plan.scaled number rounding locale).value (plan.scaled number rounding locale).remainder
      (scales plan.program) (plan.scaled number rounding locale) := by
  have plain : ∀ item ∈ scales plan.program, ∀ step, item.1.action ≠ .custom step :=
    fun item member => regular.plain item (List.mem_of_mem_filter member)
  have blank (token : Token) (cell : Nat) (found : plan.layout.tokenCell? token = some cell)
      (idle : ran (scales plan.program) token = false) :
      (plan.scaled number rounding locale).cells.text? cell = none := by
    refine blank_runAll plain (fun item member same => ?_) (Cells.text?_blank _ _)
    obtain ⟨other, listed, own, kind⟩ := regular.step token cell found
    obtain rfl := regular.same_item (List.mem_of_mem_filter member) listed (same.symm.trans own.symm)
    exact ran_eq_false.mp idle _ member kind
  refine ⟨rfl, rfl, ?_, ?_, blank, ?_, ?_⟩
  · rw [scaled, length_runAll plain]
    exact List.length_replicate
  · have unsigned : (plan.scaled number rounding locale).signCell = none :=
      (unsigned_runAll fun item member => (List.mem_filter.mp member).2).1
    simp [unsigned, bearer, ran_scales (show Weight.scale < Token.minus.weight by decide),
      ran_scales (show Weight.scale < Token.currency.weight by decide),
      ran_scales (show Weight.scale < Token.closeParen.weight by decide),
      ran_scales (show Weight.scale < Token.integer.weight by decide),
      ran_scales (show Weight.scale < Token.point.weight by decide),
      ran_scales (show Weight.scale < Token.plus.weight by decide)]
  · intro token cell marks found past
    rw [ran_scales (by cases token <;> first | decide | cases marks)] at past
    cases past
  · intro cell found _
    exact blank .point cell found (ran_scales (by decide))

end Plan

end NumberPattern
