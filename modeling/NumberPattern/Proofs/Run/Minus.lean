import Mathlib.Algebra.BigOperators.Group.List.Lemmas
import NumberPattern.Proofs.Plan.Arrangement
import NumberPattern.Proofs.Run.Decimals
import NumberPattern.Proofs.Run.Texts

/-! How many minus signs a rendered value shows. The cell that shows the sign has at most one and all other
cells have none, except for those of clocks: a clock writes its own sign and never says so. -/

namespace NumberPattern
open Lexicon (standard fallbackId)

/-- The minus signs in a cell. -/
def Cells.minuses (cells : Cells) (cell : Nat) : Nat := NumberPattern.minuses ((cells.text? cell).getD "")

/-- The minus signs in the cell that shows the sign. -/
def Run.shownMinuses (run : Run) : Nat :=
  match run.signCell with
  | some cell => run.cells.minuses cell
  | none => 0

theorem Cells.minuses_of_text {cells : Cells} {cell : Nat} {text : String}
    (written : cells.text? cell = some text) : cells.minuses cell = NumberPattern.minuses text := by
  rw [minuses, written, Option.getD_some]

theorem Cells.minuses_of_blank {cells : Cells} {cell : Nat} (blank : cells.text? cell = none) :
    cells.minuses cell = 0 := by
  rw [minuses, blank]
  rfl

theorem Cells.eq_of_write {cells : Cells} {cell : Nat} {text text' : String}
    (written : (cells.write cell text).text? cell = some text') : text' = text := by
  have inside : cell < cells.texts.length := by simpa using inside_of_text written
  rw [text?_write_self inside] at written
  exact (Option.some.inj written).symm

theorem byteUnit_bare {size : Float} {unit : String} {power : Nat}
    (found : Scale.byteUnit? size = some (unit, power)) : minuses unit = 0 := by
  have bare : ∀ unit ∈ Scale.byteUnits, minuses unit = 0 := by decide
  have member := List.mem_of_find?_eq_some found
  exact bare unit (List.fst_mem_of_mem_zipIdx member)

theorem integerText_showsSign (setting : Setting) (value : Float) :
    ∃ negative, ShowsSign negative (Amount.integerText setting value) ∧
      (Double.KeepsSign setting.rounding → ¬ value < 0.0 → negative = false) := by
  unfold Amount.integerText
  split
  next => exact ⟨_, showsSign_shortest _, fun keeps enough => Double.unsigned_add_zero (keeps value enough)⟩
  next => exact ⟨_, showsSign_shortest _, fun keeps enough => Double.unsigned_add_zero (keeps value enough)⟩
  next places _ => exact ⟨_, showsSign_fixed _ _, fun keeps enough =>
      Double.unsigned_add_zero (keeps.roundAt _ value enough)⟩

namespace Action

variable {action : Action} {setting : Setting} {cell : Nat} {run : Run} {text : String}

/-- A settled action writes no minus sign, unless it is a clock, literal text or decimals. -/
theorem written_bare (settled : action.isSettled = true) (notLiteral : action.literal? = none)
    (notClock : action ≠ .clock) (notDecimals : ∀ places optional, action ≠ .decimals places optional)
    (bare : setting.locale.WithoutMinus) (blank : run.cells.text? cell = none)
    (written : (action.perform setting cell run).cells.text? cell = some text) : minuses text = 0 := by
  cases action with
  | plus | integer | point | currency | minus | custom => cases settled
  | literal => cases notLiteral
  | clock => exact absurd rfl notClock
  | decimals places optional => exact absurd rfl (notDecimals places optional)
  | skip => cases blank.symm.trans written
  | percent =>
    rw [Cells.eq_of_write written]
    rfl
  | byteUnit =>
    simp only [perform, Scale.byteUnit] at written
    split at written
    next unit power found => rw [Cells.eq_of_write written, byteUnit_bare found]
    next => cases blank.symm.trans written
  | abbreviate choice =>
    simp only [perform, Scale.abbreviate] at written
    split at written
    next magnitude _ => rw [Cells.eq_of_write written, bare.word magnitude]
    next => cases blank.symm.trans written
  | openParen =>
    simp only [perform, Sign.openParen] at written
    split at written
    · rw [Cells.eq_of_write written]
      rfl
    · cases blank.symm.trans written
  | ordinal => rw [Cells.eq_of_write written, minuses_suffix bare.ordinal]
  | group =>
    simp only [perform, Amount.group] at written
    split at written
    next => cases blank.symm.trans written
    next digits _ =>
      split at written
      next number there =>
        have apart : cell ≠ digits := by
          rintro rfl
          cases blank.symm.trans there
        rw [Run.write, Cells.text?_write_other apart] at written
        cases blank.symm.trans written
      next => cases blank.symm.trans written
  | closeParen =>
    simp only [perform, Sign.closeParen] at written
    split at written
    · rw [Cells.eq_of_write written]
      rfl
    · cases blank.symm.trans written

theorem token?_eq_clock : action.token? = some .clock ↔ action = .clock := by
  cases action <;> simp [token?]

/-- A clock shows the sign of a value below zero unless it shows a zero. -/
theorem clock_perform (keeps : Double.KeepsSign setting.rounding) (inside : cell < run.cells.texts.length) :
    ∃ text, (clock.perform setting cell run).cells.text? cell = some text ∧
      minuses text = if Clock.showsMinus setting.rounding run.value then 1 else 0 := by
  have total : ¬ setting.rounding run.value.abs < 0.0 :=
    keeps _ (Double.unsigned_abs run.value).not_lt_zero
  have bare : minuses (Clock.Time.split .standard (setting.rounding run.value.abs)).text = 0 := by
    rw [Clock.split_eq Clock.truncates_standard]
    exact Clock.minuses_ofSeconds (Double.clampedInt_nonneg total (by decide))
  rw [perform, Clock.elapsed, Clock.elapsedBy_eq]
  refine ⟨_, Cells.text?_write_self inside, ?_⟩
  rw [minuses_signed, bare, Nat.add_zero]
  exact if_congr decide_eq_true_iff rfl rfl

end Action

namespace Plan

/-- The number of clocks in the plan. -/
def clocks (plan : Plan) : Nat := plan.steps.countP (·.action.token? = some .clock)

variable {plan : Plan} {step : PlannedStep} {cell : Nat} {before after : List (PlannedStep × Nat)}
  {token : Token}

/-- The integer has at most the minus sign that is taken from it with the sign, and none of a value that
is not below zero. -/
theorem minuses_integerText {rounding : Float → Float} {locale : Locale} (bare : locale.WithoutMinus)
    (plan : Plan) (number : Float) (grouped : Bool) :
    minuses (plan.integerText rounding locale number grouped) ≤ 1 ∧
      minuses (withoutSign (plan.integerText rounding locale number grouped)) = 0 ∧
      (Double.KeepsSign rounding → ¬ number < 0.0 →
        minuses (plan.integerText rounding locale number grouped) = 0) := by
  obtain ⟨negative, shows, unsigned⟩ := integerText_showsSign (plan.setting rounding locale) number
  have written (keeps : Double.KeepsSign rounding) (enough : ¬ number < 0.0) :
      minuses (Amount.integerText (plan.setting rounding locale) number) = 0 := by
    rw [shows.minuses_eq, unsigned keeps enough]
    rfl
  cases grouped with
  | false => exact ⟨shows.minuses_le_one, shows.minuses_withoutSign, written⟩
  | true =>
    simp only [integerText, if_true, withoutSign_groupThousands, minuses_groupThousands bare.group]
    exact ⟨shows.minuses_le_one, shows.minuses_withoutSign, written⟩

section Cells

variable (regular : plan.Regular) (value : Float) {rounding : Float → Float} {locale : Locale}
  (bare : locale.WithoutMinus)
include regular

theorem Regular.settled_finish (rounding : Float → Float) (locale : Locale)
    (order : plan.program = before ++ (step, cell) :: after) (settled : step.action.isSettled = true) :
    (plan.finish value rounding locale).cells.text? cell =
      (plan.runAfter value rounding locale (before ++ [(step, cell)])).cells.text? cell := by
  have whole : plan.program = before ++ (step, cell) :: (after ++ []) := by rw [order, List.append_nil]
  have kept := regular.settled_step value rounding locale whole settled
  rw [← order] at kept
  exact kept

theorem Regular.blank_before (rounding : Float → Float) (locale : Locale)
    (order : plan.program = before ++ (step, cell) :: after) :
    (plan.runAfter value rounding locale before).cells.text? cell = none := by
  refine blank_runAll (fun item member => ?_) (regular.apart order).1 (Cells.text?_blank _ _)
  exact regular.plain item (by simp [order, member])

theorem Regular.clock_finish (keeps : Double.KeepsSign rounding) (locale : Locale)
    (member : (step, cell) ∈ plan.program) (action : step.action = .clock) :
    ∃ text, (plan.finish value rounding locale).cells.text? cell = some text ∧
      minuses text =
        if Clock.showsMinus rounding (plan.scaled value rounding locale).value then 1 else 0 := by
  obtain ⟨before, after, order⟩ := List.append_of_mem member
  have unscaled := regular.unscaled order (by rw [action]; rfl)
  have number := (regular.value_after value rounding locale order unscaled).1
  rw [regular.settled_finish value rounding locale order (by rw [action]; rfl), regular.runAfter_concat order,
    action, ← number]
  exact Action.clock_perform keeps (regular.cell_inside order)

include bare

/-- The cells of settled steps have no minus signs, clocks and literal text apart. -/
theorem Regular.settled_minuses (member : (step, cell) ∈ plan.program) (settled : step.action.isSettled = true)
    (notLiteral : step.action.literal? = none) (notClock : step.action ≠ .clock) :
    (plan.finish value rounding locale).cells.minuses cell = 0 := by
  cases written : (plan.finish value rounding locale).cells.text? cell with
  | none => exact Cells.minuses_of_blank written
  | some text =>
    rw [Cells.minuses_of_text written]
    by_cases decimals : ∃ places optional, step.action = .decimals places optional
    · obtain ⟨places, optional, action⟩ := decimals
      obtain ⟨⟨pointStep, pointCell⟩, pointMember, pointKind⟩ := (has_iff regular.steps).mp
        (regular.prior _ member .decimals .point (congrArg Action.token? action) rfl)
      have found := regular.cell _ pointMember .point pointKind rfl
      obtain ⟨_, _, digits⟩ := regular.decimals_finish member action found value rounding locale
      rw [written] at digits
      split at digits
      · cases digits
        exact minuses_digits fun _ => isDigit_of_mem_decimalText
      · cases digits
    · obtain ⟨before, after, order⟩ := List.append_of_mem member
      have own := regular.settled_finish value rounding locale order settled
      rw [written, regular.runAfter_concat order] at own
      have setting : (plan.setting rounding locale).locale.WithoutMinus := bare
      exact Action.written_bare settled notLiteral notClock
        (fun places optional action => decimals ⟨places, optional, action⟩) setting
        (regular.blank_before value rounding locale order) own.symm

/-- The cell of a step that shows signs has at most one minus sign, and none unless it is the cell that
shows the sign. -/
theorem Regular.bearer_minuses (keeps : Double.KeepsSign rounding) (member : (step, cell) ∈ plan.program)
    (kind : step.action.token? = some token) (shows : token.showsSign = true) :
    (plan.finish value rounding locale).cells.minuses cell ≤ 1 ∧
      ((plan.finish value rounding locale).signCell ≠ some cell →
        (plan.finish value rounding locale).cells.minuses cell = 0) := by
  have signs := (regular.signs_finish value rounding locale).2
  have past := ran_program_of_mem member kind
  cases token with
  | plus =>
    have found := regular.mark_finish value rounding locale member kind rfl
    rw [Cells.minuses, found, Token.mark]
    split <;> exact ⟨by decide, fun _ => by decide⟩
  | minus =>
    have found := regular.mark_finish value rounding locale member kind rfl
    rw [Cells.minuses, found, Token.mark]
    split
    next negative =>
      refine ⟨by decide, fun elsewhere => absurd ?_ elsewhere⟩
      have present : plan.has .minus = true := (ran_program regular .minus).symm.trans past
      rw [regular.signCell_finish, bearer, if_pos negative, if_pos present]
      exact regular.cell _ member .minus kind rfl
    next => exact ⟨by decide, fun _ => by decide⟩
  | currency =>
    have found := signs.currency cell (regular.cell _ member .currency kind rfl) past
    rw [Cells.minuses_of_text found, minuses_signed, bare.currency]
    split
    next shown => exact ⟨by decide, fun elsewhere => absurd (of_decide_eq_true shown) elsewhere⟩
    next => exact ⟨by decide, fun _ => by decide⟩
  | point =>
    cases written : (plan.finish value rounding locale).cells.text? cell with
    | none => simp [Cells.minuses_of_blank written]
    | some text =>
      have found := signs.point cell text (regular.cell _ member .point kind rfl) written
      rw [Cells.minuses_of_text written, found, minuses_signed, bare.point]
      split
      next shown => exact ⟨by decide, fun elsewhere => absurd (of_decide_eq_true shown) elsewhere⟩
      next => exact ⟨by decide, fun _ => by decide⟩
  | integer =>
    have found := signs.integer cell (regular.cell _ member .integer kind rfl) past
    obtain ⟨most, stripped, unsigned⟩ := minuses_integerText bare plan
      (plan.scaled value rounding locale).value (ran plan.program .grouping)
    rw [Cells.minuses_of_text found]
    split
    next => exact ⟨by rw [stripped]; decide, fun _ => stripped⟩
    next other =>
      refine ⟨most, fun elsewhere => unsigned keeps fun negative => other ⟨negative, elsewhere⟩⟩
  | _ => cases shows

end Cells

section Total

variable {item : PlannedStep × Nat} {rounding : Float → Float} {locale : Locale}

/-- The steps that write no literal text. -/
def unliteral (plan : Plan) : List (PlannedStep × Nat) := plan.program.filter (!·.1.action.literal?.isSome)

theorem mem_unliteral :
    item ∈ plan.unliteral ↔ item ∈ plan.program ∧ item.1.action.literal? = none := by
  rw [unliteral, List.mem_filter, Bool.not_eq_true', Option.isSome_eq_false_iff, Option.isNone_iff_eq_none]

theorem Regular.isLiteralCell_eq (regular : plan.Regular) (member : item ∈ plan.program) :
    plan.isLiteralCell item.2 = item.1.action.literal?.isSome := by
  rw [Bool.eq_iff_iff, isLiteralCell, List.any_eq_true]
  constructor
  · rintro ⟨other, member', same⟩
    rw [Bool.and_eq_true, decide_eq_true_eq] at same
    obtain rfl := regular.same_item member' member same.1
    exact same.2
  · intro literal
    exact ⟨item, member, by simp [literal]⟩

theorem minuses_renderWithoutLiterals (regular : plan.Regular)
    (cells : (plan.program.map Prod.snd).Perm (List.range plan.layout.size)) (value : Float)
    (rounding : Float → Float) (locale : Locale) :
    minuses (plan.renderWithoutLiterals value rounding locale) =
      (plan.unliteral.map fun item => (plan.finish value rounding locale).cells.minuses item.2).sum := by
  have kept : (plan.program.map Prod.snd).filter (!plan.isLiteralCell ·) = plan.unliteral.map Prod.snd := by
    rw [List.filter_map, unliteral]
    refine congrArg (List.map Prod.snd) (List.filter_congr fun item member => ?_)
    exact congrArg (!·) (regular.isLiteralCell_eq member)
  rw [renderWithoutLiterals, join_filterMap, minuses_join, List.map_map]
  rw [← ((cells.filter _).map _).sum_eq, kept, List.map_map]
  rfl

/-- No step but one that shows signs has the cell that shows the sign. -/
theorem Regular.signCell_ne_of_isSettled (regular : plan.Regular) (value : Float) (rounding : Float → Float)
    (locale : Locale) (member : item ∈ plan.program) (settled : item.1.action.isSettled = true) :
    (plan.finish value rounding locale).signCell ≠ some item.2 := by
  intro shown
  obtain ⟨token, shows, owner, member', own, kind⟩ :=
    regular.signCell_hosted value rounding locale (List.append_nil _).symm shown
  obtain rfl := regular.same_item member' member own
  cases (Action.showsSign_of_isSettled settled kind).symm.trans shows

/-- Clocks apart, only the cell that shows the sign has a minus sign. -/
theorem Regular.other_minuses (regular : plan.Regular) (bare : locale.WithoutMinus)
    (keeps : Double.KeepsSign rounding) (value : Float) (member : item ∈ plan.program)
    (notLiteral : item.1.action.literal? = none) (notClock : item.1.action ≠ .clock)
    (elsewhere : (plan.finish value rounding locale).signCell ≠ some item.2) :
    (plan.finish value rounding locale).cells.minuses item.2 = 0 := by
  have bearer (token : Token) (kind : item.1.action.token? = some token) (shows : token.showsSign = true) :=
    (regular.bearer_minuses value bare keeps member kind shows).2 elsewhere
  cases action : item.1.action with
  | custom step => exact absurd action (regular.plain item member step)
  | plus | integer | point | currency | minus =>
    rw [action] at bearer
    exact bearer _ rfl rfl
  | _ => exact regular.settled_minuses value bare member (by rw [action]; rfl) notLiteral notClock

/-- The minus signs of a cell are those of a clock and of the cell that shows the sign. -/
theorem Regular.minuses_finish (regular : plan.Regular) (bare : locale.WithoutMinus)
    (keeps : Double.KeepsSign rounding) (value : Float) (member : item ∈ plan.unliteral) :
    (plan.finish value rounding locale).cells.minuses item.2 =
      (if item.1.action.token? = some .clock then
        if Clock.showsMinus rounding (plan.scaled value rounding locale).value then 1 else 0 else 0) +
      if item.2 = (plan.finish value rounding locale).signCell then
        (plan.finish value rounding locale).cells.minuses item.2 else 0 := by
  obtain ⟨member, notLiteral⟩ := mem_unliteral.mp member
  by_cases kind : item.1.action.token? = some .clock
  · have clock := Action.token?_eq_clock.mp kind
    obtain ⟨text, written, count⟩ := regular.clock_finish value keeps locale member clock
    have elsewhere := regular.signCell_ne_of_isSettled value rounding locale member (by rw [clock]; rfl)
    rw [Cells.minuses_of_text written, count, if_pos kind, if_neg (Ne.symm elsewhere), Nat.add_zero]
  · rw [if_neg kind, Nat.zero_add]
    split
    next => rfl
    next elsewhere =>
      exact regular.other_minuses bare keeps value member notLiteral
        (fun clock => kind (Action.token?_eq_clock.mpr clock)) (Ne.symm elsewhere)

theorem Regular.count_clock (regular : plan.Regular) :
    plan.unliteral.countP (·.1.action.token? = some .clock) = plan.clocks := by
  rw [clocks, ← regular.steps, List.countP_map, unliteral, List.countP_filter]
  refine List.countP_congr fun item _ => ?_
  simp only [Function.comp_apply, Bool.and_eq_true, decide_eq_true_eq, and_iff_left_iff_imp]
  intro clock
  rw [Action.literal?_of_token (by rw [clock]; rfl)]
  rfl

/-- Of the cells without literal text, one is the cell that shows the sign. -/
theorem Regular.sum_shown (regular : plan.Regular) (value : Float) (rounding : Float → Float) (locale : Locale) :
    (plan.unliteral.map fun item => if item.2 = (plan.finish value rounding locale).signCell then
      (plan.finish value rounding locale).cells.minuses item.2 else 0).sum =
      (plan.finish value rounding locale).shownMinuses := by
  cases shown : (plan.finish value rounding locale).signCell with
  | none =>
    simp only [reduceCtorEq, if_false, Run.shownMinuses, shown]
    exact List.sum_eq_zero (by simp)
  | some cell =>
    obtain ⟨token, _, owner, member, own, kind⟩ :=
      regular.signCell_hosted value rounding locale (List.append_nil _).symm shown
    have present : cell ∈ plan.unliteral.map Prod.snd :=
      List.mem_map.mpr ⟨owner, mem_unliteral.mpr ⟨member, Action.literal?_of_token (by rw [kind]; rfl)⟩, own⟩
    have once : (plan.unliteral.map Prod.snd).Nodup := regular.distinct.sublist (List.filter_sublist.map _)
    have single := List.sum_map_eq_nsmul_single (l := plan.unliteral.map Prod.snd) cell
      (fun other => if some other = some cell then (plan.finish value rounding locale).cells.minuses other else 0)
      fun other different _ => if_neg fun same => different (Option.some.inj same)
    rw [List.count_eq_one_of_mem once present, one_nsmul, if_pos rfl, List.map_map] at single
    rw [Run.shownMinuses, shown]
    exact single

end Total

/-- How many minus signs a rendered value shows, literal text apart, and where they are. -/
structure Minuses (plan : Plan) (value : Float) (rounding : Float → Float) (locale : Locale) : Prop where
  clock : ∀ item ∈ plan.program, item.1.action = .clock →
    (plan.finish value rounding locale).cells.minuses item.2 =
      if Clock.showsMinus rounding (plan.finish value rounding locale).value then 1 else 0
  other : ∀ item ∈ plan.program, item.1.action.literal? = none → item.1.action ≠ .clock →
    (plan.finish value rounding locale).signCell ≠ some item.2 →
    (plan.finish value rounding locale).cells.minuses item.2 = 0
  shown : (plan.finish value rounding locale).shownMinuses ≤ 1
  unsigned : ¬ (plan.finish value rounding locale).value < 0.0 →
    (plan.finish value rounding locale).shownMinuses = 0
  /-- A minus, or a symbol that carries the sign outside of parentheses, shows it. -/
  marked : (plan.finish value rounding locale).value < 0.0 →
    plan.has .minus = true ∨ plan.carriesSign = true ∧ plan.has .closeParen = false →
    (plan.finish value rounding locale).shownMinuses = 1
  total : minuses (plan.renderWithoutLiterals value rounding locale) =
    (if Clock.showsMinus rounding (plan.finish value rounding locale).value then plan.clocks else 0) +
      (plan.finish value rounding locale).shownMinuses
  atMostOne : minuses (plan.renderWithoutLiterals value rounding locale) ≤ 1 ↔
    (Clock.showsMinus rounding (plan.finish value rounding locale).value →
      plan.clocks = 0 ∨ plan.clocks = 1 ∧ (plan.finish value rounding locale).shownMinuses = 0)

section Regular

variable (regular : plan.Regular) (value : Float) {rounding : Float → Float} {locale : Locale}
include regular

theorem Regular.shownMinuses_le_one (keeps : Double.KeepsSign rounding) (bare : locale.WithoutMinus) :
    (plan.finish value rounding locale).shownMinuses ≤ 1 := by
  unfold Run.shownMinuses
  split
  next cell shown =>
    obtain ⟨token, shows, item, member, rfl, kind⟩ :=
      regular.signCell_hosted value rounding locale (List.append_nil _).symm shown
    exact (regular.bearer_minuses value bare keeps member kind shows).1
  next => exact Nat.zero_le 1

theorem Regular.value_finish (rounding : Float → Float) (locale : Locale) :
    (plan.finish value rounding locale).value = (plan.scaled value rounding locale).value :=
  (regular.value_after value rounding locale (List.append_nil _).symm (by simp)).1

theorem Regular.shownMinuses_of_unsigned (locale : Locale)
    (enough : ¬ (plan.finish value rounding locale).value < 0.0) :
    (plan.finish value rounding locale).shownMinuses = 0 := by
  rw [regular.value_finish] at enough
  unfold Run.shownMinuses
  split
  next cell shown =>
    rw [regular.signCell_finish, bearer, if_neg enough] at shown
    split at shown
    next positive =>
      split at shown
      next =>
        obtain ⟨item, member, rfl, kind⟩ := regular.step .plus cell shown
        rw [Cells.minuses, regular.mark_finish value rounding locale member kind rfl, Token.mark, if_pos positive]
        rfl
      next => cases shown
    next => cases shown
  next => rfl

theorem Regular.shownMinuses_of_marked (bare : locale.WithoutMinus)
    (negative : (plan.finish value rounding locale).value < 0.0)
    (marked : plan.has .minus = true ∨ plan.carriesSign = true ∧ plan.has .closeParen = false) :
    (plan.finish value rounding locale).shownMinuses = 1 := by
  rw [regular.value_finish] at negative
  cases present : plan.has .minus with
  | true =>
    obtain ⟨item, member, kind⟩ := (has_iff regular.steps).mp present
    have shown : (plan.finish value rounding locale).signCell = some item.2 := by
      rw [regular.signCell_finish, bearer, if_pos negative, if_pos present]
      exact regular.cell item member .minus kind rfl
    have written := regular.mark_finish value rounding locale member kind rfl
    rw [Token.mark, if_pos negative] at written
    rw [Run.shownMinuses, shown]
    exact Cells.minuses_of_text written
  | false =>
    obtain ⟨carries, bracketless⟩ := marked.resolve_left (by simp [present])
    obtain ⟨item, member, kind⟩ := (has_iff regular.steps).mp (has_currency carries)
    have found := regular.cell item member .currency kind rfl
    have shown : (plan.finish value rounding locale).signCell = some item.2 := by
      rw [regular.signCell_finish, bearer, if_pos negative, if_neg (by simp [present]),
        if_pos (by simp [has_currency carries, carries, bracketless])]
      exact found
    have written := (regular.signs_finish value rounding locale).2.currency _ found
      (ran_program_of_mem member kind)
    rw [decide_eq_true shown] at written
    rw [Run.shownMinuses, shown]
    refine (Cells.minuses_of_text written).trans ?_
    rw [minuses_signed, bare.currency]
    rfl

theorem Regular.total_minuses (keeps : Double.KeepsSign rounding) (bare : locale.WithoutMinus)
    (cells : (plan.program.map Prod.snd).Perm (List.range plan.layout.size)) :
    minuses (plan.renderWithoutLiterals value rounding locale) =
      (if Clock.showsMinus rounding (plan.finish value rounding locale).value then plan.clocks else 0) +
        (plan.finish value rounding locale).shownMinuses := by
  rw [minuses_renderWithoutLiterals regular cells, ← regular.sum_shown, ← regular.count_clock,
    regular.value_finish]
  rw [List.map_congr_left fun item member => regular.minuses_finish bare keeps value member, List.sum_map_add,
    List.sum_map_ite, List.countP_eq_length_filter]
  split <;> simp only [List.map_const', List.sum_replicate_nat, Nat.mul_one, Nat.mul_zero, Nat.add_zero]

theorem Regular.minuses (keeps : Double.KeepsSign rounding) (bare : locale.WithoutMinus)
    (cells : (plan.program.map Prod.snd).Perm (List.range plan.layout.size)) :
    plan.Minuses value rounding locale where
  clock := by
    intro item member action
    obtain ⟨text, written, count⟩ := regular.clock_finish value keeps locale member action
    rw [Cells.minuses_of_text written, count, regular.value_finish]
  other := fun item member => regular.other_minuses bare keeps value member
  shown := regular.shownMinuses_le_one value keeps bare
  unsigned := regular.shownMinuses_of_unsigned value locale
  marked := regular.shownMinuses_of_marked value bare
  total := regular.total_minuses value keeps bare cells
  atMostOne := by
    have most := regular.shownMinuses_le_one value keeps bare
    rw [regular.total_minuses value keeps bare cells]
    split
    next shows =>
      simp only [shows, true_imp_iff]
      omega
    next hides => simp [hides, most]

end Regular

/-- Each clock of a pattern shows the sign of a value, and so does at most one of the other steps. More
than one minus sign is shown just when a clock is not the only one to show the sign. -/
theorem minus_signs (unclaimed : Unclaimed) (serial : Nat) (pattern : String) (plan : Plan)
    (compiled : compile (standard unclaimed) serial pattern = .ok plan) (value : Float)
    (rounding : Float → Float) (known : rounding ∈ Double.roundings) (locale : Locale)
    (bare : locale.WithoutMinus) : plan.Minuses value rounding locale := by
  have regular := regular_of_compile compiled
  obtain ⟨claims, -, rfl⟩ := compile_eq_ok_iff.mp compiled
  refine regular.minuses value (Double.keepsSign_of_mem known) bare ?_
  rw [size_ofClaims]
  exact cells_program

/-- The integer of a value that it rounds to zero has no minus sign; the clock beside it has one. -/
theorem minus_signs_half :
    ∃ plan, compile (standard .echo) 0 "00:00:00/0" = .ok plan ∧ plan.clocks = 1 ∧
      plan.Minuses (-0.5) roundHalfUp {} ∧ minuses (plan.renderWithoutLiterals (-0.5) roundHalfUp {}) ≤ 1 := by
  let claims : List Claim :=
    [⟨⟨9⟩, { action := .clock, weight := Weight.integer, consumed := 7 }⟩,
      ⟨fallbackId, { action := .literal "/", weight := Weight.literal }⟩,
      ⟨⟨7⟩, { action := .integer, weight := Weight.integer }⟩]
  have scanned : scan (standard .echo) "00:00:00/0" = .ok claims := rfl
  have compiled : compile (standard .echo) 0 "00:00:00/0" =
      .ok (ofClaims (standard .echo) 0 "00:00:00/0" claims) :=
    compile_eq_ok_iff.mpr ⟨claims, scanned, rfl⟩
  have signs := minus_signs .echo 0 "00:00:00/0" _ compiled (-0.5) roundHalfUp (by simp [Double.roundings]) {}
    Locale.withoutMinus_default
  exact ⟨_, compiled, rfl, signs, signs.atMostOne.mpr fun _ => Or.inr ⟨rfl, by decide +kernel⟩⟩

/-- The symbol before a clock shows the sign that the clock shows too. -/
theorem two_minus_signs : ¬ ∀ (unclaimed : Unclaimed) (serial : Nat) (pattern : String) (plan : Plan)
    (value : Float) (rounding : Float → Float) (locale : Locale),
    compile (standard unclaimed) serial pattern = .ok plan → rounding ∈ Double.roundings →
    locale.WithoutMinus → minuses (plan.renderWithoutLiterals value rounding locale) ≤ 1 := by
  intro single
  let claims : List Claim :=
    [⟨⟨14⟩, { action := .currency true, weight := Weight.currency }⟩,
      ⟨⟨9⟩, { action := .clock, weight := Weight.integer, consumed := 7 }⟩]
  have scanned : scan (standard .echo) "$00:00:00" = .ok claims := rfl
  have compiled : compile (standard .echo) 0 "$00:00:00" =
      .ok (ofClaims (standard .echo) 0 "$00:00:00" claims) :=
    compile_eq_ok_iff.mpr ⟨claims, scanned, rfl⟩
  have most := single .echo 0 "$00:00:00" _ (-25.0) roundHalfUp {} compiled (by simp [Double.roundings])
    Locale.withoutMinus_default
  revert most
  decide +kernel

end Plan

end NumberPattern
