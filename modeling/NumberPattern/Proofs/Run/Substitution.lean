import NumberPattern.Proofs.Run.Placement
import NumberPattern.Proofs.Run.Scaling
import NumberPattern.Rounding

/-! Two runs of one plan under two locales. They stay in step: the state is the same after every step, the
same cells are filled, and the cells that no text of a locale is written to hold the same texts. -/

namespace NumberPattern
open Lexicon (standard)

variable {free : Nat → Prop} {cell cell' : Nat}

/-- The same cells are filled, the free ones with the same texts. -/
structure Cells.Agrees (free : Nat → Prop) (cells other : Cells) : Prop where
  length : cells.texts.length = other.texts.length
  filled : ∀ cell, cells.isFilled cell = other.isFilled cell
  text : ∀ cell, free cell → cells.text? cell = other.text? cell

namespace Cells.Agrees

variable {cells other : Cells} (agrees : cells.Agrees free other)
include agrees

theorem text_cases (cell : Nat) : (cells.text? cell = none ∧ other.text? cell = none) ∨
    ∃ text text', cells.text? cell = some text ∧ other.text? cell = some text' := by
  have filled := agrees.filled cell
  rw [Cells.isFilled, Cells.isFilled] at filled
  cases written : cells.text? cell <;> cases written' : other.text? cell <;> simp_all

theorem write {text text' : String} (same : free cell → text = text') :
    (cells.write cell text).Agrees free (other.write cell text') := by
  refine ⟨by simpa using agrees.length, fun asked => ?_, fun asked clear => ?_⟩
  · by_cases own : asked = cell
    · subst asked
      by_cases inside : cell < cells.texts.length
      · have inside' : cell < other.texts.length := agrees.length ▸ inside
        simp [Cells.isFilled, inside, inside']
      · have outside : ¬ cell < other.texts.length := agrees.length ▸ inside
        simp [Cells.isFilled, Cells.text?, Cells.write, inside, outside]
    · have before := agrees.filled asked
      simpa [Cells.isFilled, own] using before
  · by_cases own : asked = cell
    · subst asked
      rw [same clear]
      by_cases inside : cell < cells.texts.length
      · rw [text?_write_self inside, text?_write_self (agrees.length ▸ inside)]
      · have outside : ¬ cell < other.texts.length := agrees.length ▸ inside
        simp [Cells.text?, Cells.write, inside, outside]
    · rw [text?_write_other own, text?_write_other own]
      exact agrees.text asked clear

theorem clear (cell : Nat) : (cells.clear cell).Agrees free (other.clear cell) := by
  refine ⟨by simpa using agrees.length, fun asked => ?_, fun asked clear => ?_⟩
  · by_cases own : asked = cell
    · simp [Cells.isFilled, own]
    · have before := agrees.filled asked
      simpa [Cells.isFilled, own] using before
  · by_cases own : asked = cell
    · simp [own]
    · rw [text?_clear_other own, text?_clear_other own]
      exact agrees.text asked clear

theorem stripSign (cell : Nat) : (cells.stripSign cell).Agrees free (other.stripSign cell) := by
  refine ⟨by simpa using agrees.length, fun asked => ?_, fun asked clear => ?_⟩
  · have before := agrees.filled asked
    by_cases own : asked = cell
    · subst asked
      simpa [Cells.isFilled] using before
    · simpa [Cells.isFilled, own] using before
  · by_cases own : asked = cell
    · subst asked
      rw [text?_stripSign_self, text?_stripSign_self, agrees.text cell clear]
    · rw [text?_stripSign_other own, text?_stripSign_other own]
      exact agrees.text asked clear

end Cells.Agrees

/-- The runs differ at most in the texts of cells that are not free. -/
structure Run.Agrees (free : Nat → Prop) (run other : Run) : Prop where
  value : run.value = other.value
  remainder : run.remainder = other.remainder
  fraction : run.fraction = other.fraction
  optionalPoint : run.optionalPoint = other.optionalPoint
  signCell : run.signCell = other.signCell
  cells : run.cells.Agrees free other.cells

/-- The settings differ at most in the locale. -/
structure Setting.Agrees (setting other : Setting) : Prop where
  rounding : setting.rounding = other.rounding
  precision : setting.precision = other.precision
  layout : setting.layout = other.layout

theorem Setting.Agrees.refl (setting : Setting) : setting.Agrees setting := ⟨rfl, rfl, rfl⟩

theorem Run.Agrees.refl (run : Run) : run.Agrees free run :=
  ⟨rfl, rfl, rfl, rfl, rfl, rfl, fun _ => rfl, fun _ _ => rfl⟩

/-- Such an action writes a text of the locale to its cell. -/
def Action.isLocalized : Action → Bool
  | currency _ | point _ | abbreviate _ | ordinal => true
  | _ => false

namespace Run.Agrees

variable {run other : Run} {setting setting' : Setting} {action : Action} (agrees : run.Agrees free other)
include agrees

theorem isNegative : run.isNegative = other.isNegative := by
  rw [Run.isNegative, Run.isNegative, agrees.value]

theorem rescale {value value' : Float} (equal : value = value') :
    (run.rescale value).Agrees free (other.rescale value') := by
  subst equal
  exact { agrees with value := rfl, remainder := rfl }

theorem signed (shown : Option Nat) :
    ({ run with signCell := shown } : Run).Agrees free { other with signCell := shown } :=
  { agrees with signCell := rfl }

theorem write {text text' : String} (same : free cell → text = text') :
    (run.write cell text).Agrees free (other.write cell text') :=
  { agrees with cells := agrees.cells.write same }

theorem writeSame (text : String) : (run.write cell text).Agrees free (other.write cell text) :=
  agrees.write fun _ => rfl

theorem takeBack : (Sign.takeBack run).Agrees free (Sign.takeBack other) := by
  have same := agrees.signCell
  unfold Sign.takeBack
  cases shown : run.signCell with
  | none =>
    rw [← same, shown]
    exact agrees
  | some cell =>
    rw [shown] at same
    simp only [← same]
    exact { agrees with signCell := rfl, cells := agrees.cells.stripSign cell }

theorem writePoint {text text' : String} (same : free cell → text = text') :
    (Amount.writePoint text cell run).Agrees free (Amount.writePoint text' cell other) := by
  have shown : run.signCell.isNone = other.signCell.isNone := by rw [agrees.signCell]
  simp only [Amount.writePoint, agrees.isNegative, shown]
  split
  · exact (agrees.write fun clear => congrArg ("-" ++ ·) (same clear)).signed (some cell)
  · exact agrees.write same

variable (settings : setting.Agrees setting')
include settings

theorem isWrapped : Sign.isWrapped setting run = Sign.isWrapped setting' other := by
  simp only [Sign.isWrapped, settings.layout, agrees.cells.filled]

theorem currency (carriesSign : Bool) (same : free cell → setting.locale = setting'.locale) :
    (Sign.currency carriesSign setting cell run).Agrees free
      (Sign.currency carriesSign setting' cell other) := by
  simp only [Sign.currency, agrees.isNegative, agrees.isWrapped settings]
  split
  · exact (agrees.takeBack.write fun clear => by rw [same clear]).signed (some cell)
  · exact agrees.write fun clear => by rw [same clear]

theorem integer : (Amount.integer setting cell run).Agrees free (Amount.integer setting' cell other) := by
  have text : Amount.integerText setting run.value = Amount.integerText setting' other.value := by
    rw [Amount.integerText, Amount.integerText, settings.precision, settings.rounding, agrees.value]
  have fraction : Amount.integerFraction setting run.value run.fraction =
      Amount.integerFraction setting' other.value other.fraction := by
    rw [Amount.integerFraction, Amount.integerFraction, settings.precision, settings.rounding,
      agrees.value, agrees.fraction]
  rw [Amount.integer_eq, Amount.integer_eq, text, fraction, agrees.isNegative, agrees.signCell]
  exact { agrees.writeSame _ with fraction := rfl, signCell := rfl }

/-- The separators may differ, so the integer must not be free. -/
theorem group (bound : ∀ digits, setting.layout.tokenCell? .integer = some digits → ¬ free digits)
    (cell : Nat) : (Amount.group setting cell run).Agrees free (Amount.group setting' cell other) := by
  unfold Amount.group
  rw [← settings.layout]
  split
  next => exact agrees
  next digits found =>
    rcases agrees.cells.text_cases digits with ⟨blank, blank'⟩ | ⟨text, text', written, written'⟩
    · simpa only [blank, blank'] using agrees
    · simp only [written, written']
      exact agrees.write fun clear => absurd clear (bound digits found)

omit settings in
theorem point (optional : Bool) (same : free cell → setting.locale = setting'.locale) :
    (Amount.point optional setting cell run).Agrees free (Amount.point optional setting' cell other) := by
  have whole : (run.remainder == 0.0) = (other.remainder == 0.0) := by rw [agrees.remainder]
  rw [Amount.point, Amount.point, whole]
  have marked : ({ run with optionalPoint := true } : Run).Agrees free { other with optionalPoint := true } :=
    { agrees with optionalPoint := rfl }
  split
  · split
    · exact agrees
    · exact marked.writePoint fun clear => by rw [same clear]
  · exact agrees.writePoint fun clear => by rw [same clear]

theorem decimals (places optional : Nat) :
    (Amount.decimals places optional setting cell run).Agrees free
      (Amount.decimals places optional setting' cell other) := by
  have digits : Amount.decimalsOf setting places run = Amount.decimalsOf setting' places other := by
    rw [Amount.decimalsOf, Amount.decimalsOf, agrees.fraction, agrees.remainder, settings.rounding]
  unfold Amount.decimals
  rw [← settings.layout]
  split
  next => exact agrees
  next pointCell found =>
    simp only [agrees.cells.filled, digits, agrees.optionalPoint]
    split
    · split
      · exact agrees.writeSame _
      · exact { agrees with optionalPoint := rfl, cells := agrees.cells.clear pointCell }
    · exact agrees

/-- Runs agree after an action when they did before and the texts of different locales go to cells that are
not free. -/
theorem perform (plain : ∀ step, action ≠ .custom step)
    (own : action.isLocalized = true → free cell → setting.locale = setting'.locale)
    (grouped : action = .group → ∀ digits, setting.layout.tokenCell? .integer = some digits → ¬ free digits) :
    (action.perform setting cell run).Agrees free (action.perform setting' cell other) := by
  cases action with
  | custom step => exact absurd rfl (plain step)
  | literal text => exact agrees.writeSame text
  | skip => exact agrees
  | percent => exact (agrees.writeSame "%").rescale (congrArg (· * 100.0) agrees.value)
  | byteUnit =>
    simp only [Action.perform, Scale.byteUnit, agrees.value]
    split
    · exact (agrees.writeSame _).rescale rfl
    · exact agrees
  | abbreviate choice =>
    simp only [Action.perform, Scale.abbreviate, agrees.value]
    split
    · exact (agrees.write fun clear => by rw [own rfl clear]).rescale rfl
    · exact agrees
  | openParen =>
    simp only [Action.perform, Sign.openParen, agrees.isNegative]
    split
    · exact agrees.writeSame "("
    · exact agrees
  | plus =>
    simp only [Action.perform, Sign.plus, agrees.value]
    split
    · exact (agrees.writeSame "+").signed (some cell)
    · exact agrees
  | integer => exact agrees.integer settings
  | ordinal => exact agrees.write fun clear => by rw [own rfl clear, settings.rounding, agrees.value]
  | clock =>
    simp only [Action.perform, Clock.elapsed, Clock.elapsedBy, settings.rounding, agrees.value,
      agrees.isNegative]
    exact agrees.writeSame _
  | group => exact agrees.group settings (grouped rfl) cell
  | point optional => exact agrees.point optional (own rfl)
  | decimals places optional => exact agrees.decimals settings places optional
  | closeParen =>
    simp only [Action.perform, Sign.closeParen, agrees.isNegative]
    split
    · exact (agrees.takeBack.writeSame ")").signed none
    · exact agrees
  | currency carriesSign => exact agrees.currency settings carriesSign (own rfl)
  | minus =>
    simp only [Action.perform, Sign.minus, agrees.isNegative]
    split
    · exact (agrees.takeBack.writeSame "-").signed (some cell)
    · exact agrees

end Run.Agrees

/-- Runs that agree go on to agree when they take the same steps. -/
theorem Run.Agrees.runAll {run other : Run} {setting setting' : Setting} (settings : setting.Agrees setting')
    {items : List (PlannedStep × Nat)} (plain : ∀ item ∈ items, ∀ step, item.1.action ≠ .custom step)
    (own : ∀ item ∈ items, item.1.action.isLocalized = true → free item.2 → setting.locale = setting'.locale)
    (grouped : ∀ item ∈ items, item.1.action = .group →
      ∀ digits, setting.layout.tokenCell? .integer = some digits → ¬ free digits)
    (agrees : run.Agrees free other) :
    (Plan.runAll setting items run).Agrees free (Plan.runAll setting' items other) := by
  induction items generalizing run other with
  | nil => exact agrees
  | cons item items ih =>
    obtain ⟨plain, laterPlain⟩ := List.forall_mem_cons.mp plain
    obtain ⟨own, laterOwn⟩ := List.forall_mem_cons.mp own
    obtain ⟨grouped, laterGrouped⟩ := List.forall_mem_cons.mp grouped
    rw [Plan.runAll_cons plain, Plan.runAll_cons plain]
    exact ih laterPlain laterOwn laterGrouped (agrees.perform settings plain own grouped)

theorem withoutSign_ofList_cons {c : Char} (other : c ≠ '-') (rest : List Char) :
    withoutSign (String.ofList (c :: rest)) = String.ofList (c :: rest) := by
  simp [withoutSign, other]

/-- The sign is taken from a text just as well before it is grouped. -/
theorem withoutSign_groupThousands (separator text : String) :
    withoutSign (Amount.groupThousands separator text) =
      Amount.groupThousands separator (withoutSign text) := by
  obtain ⟨letters, rfl⟩ : ∃ letters, text = String.ofList letters := ⟨text.toList, String.ofList_toList.symm⟩
  cases letters with
  | nil => rfl
  | cons c rest =>
    by_cases minus : c = '-'
    · subst c
      simp [Amount.groupThousands, Amount.groupDigits, withoutSign]
    · rw [withoutSign_ofList_cons minus, Amount.groupThousands, String.toList_ofList, Amount.groupDigits]
      split
      · exact withoutSign_ofList_cons minus _
      · exact withoutSign_ofList_cons minus _

namespace Plan

/-- The texts that the steps at the cell leave there do not depend on the locale. -/
def Unlocalized (plan : Plan) (cell : Nat) : Prop :=
  ∀ item ∈ plan.program, item.2 = cell → item.1.action.isLocalized = false ∧
    (item.1.action = .integer → plan.has .grouping = false)

variable {plan : Plan}

theorem setting_agrees (plan : Plan) (rounding : Float → Float) (locale other : Locale) :
    (plan.setting rounding locale).Agrees (plan.setting rounding other) := ⟨rfl, rfl, rfl⟩

/-- Under two locales the runs of a plan agree after every step. -/
theorem Regular.runAfter_agrees (regular : plan.Regular) (value : Float) (rounding : Float → Float)
    (locale other : Locale) {before after : List (PlannedStep × Nat)} (order : plan.program = before ++ after) :
    (plan.runAfter value rounding locale before).Agrees plan.Unlocalized
      (plan.runAfter value rounding other before) := by
  have known {item : PlannedStep × Nat} (member : item ∈ before) : item ∈ plan.program := by
    simp [order, member]
  refine Run.Agrees.runAll (setting_agrees plan rounding locale other)
    (fun item member => regular.plain item (known member)) ?_ ?_ ?_
  · intro item member localized clear
    cases localized.symm.trans (clear item (known member) rfl).1
  · intro item member group digits found clear
    obtain ⟨integer, member', own, kind⟩ := regular.step .integer digits found
    have grouping : plan.has .grouping = true :=
      (has_iff regular.steps).mpr ⟨item, known member, congrArg Action.token? group⟩
    cases grouping.symm.trans ((clear integer member' own).2 (Action.eq_integer kind))
  · exact .refl _

/-- The run under one locale and under another. -/
structure Substitution (plan : Plan) (value : Float) (rounding : Float → Float) (locale other : Locale) :
    Prop where
  /-- After every step the state is the same and the same cells are filled. -/
  state : ∀ before after, plan.program = before ++ after →
    (plan.runAfter value rounding locale before).value = (plan.runAfter value rounding other before).value ∧
    (plan.runAfter value rounding locale before).remainder =
      (plan.runAfter value rounding other before).remainder ∧
    (plan.runAfter value rounding locale before).fraction =
      (plan.runAfter value rounding other before).fraction ∧
    (plan.runAfter value rounding locale before).optionalPoint =
      (plan.runAfter value rounding other before).optionalPoint ∧
    (plan.runAfter value rounding locale before).signCell =
      (plan.runAfter value rounding other before).signCell ∧
    ∀ cell, (plan.runAfter value rounding locale before).cells.isFilled cell =
      (plan.runAfter value rounding other before).cells.isFilled cell
  text : ∀ cell, plan.Unlocalized cell →
    (plan.finish value rounding locale).cells.text? cell = (plan.finish value rounding other).cells.text? cell
  currency : ∀ step cell carriesSign, (step, cell) ∈ plan.program → step.action = .currency carriesSign →
    ∃ negative,
      (plan.finish value rounding locale).cells.text? cell = some (signed negative locale.currency) ∧
      (plan.finish value rounding other).cells.text? cell = some (signed negative other.currency)
  /-- A point is left out under both locales or under none. -/
  point : ∀ step cell optional, (step, cell) ∈ plan.program → step.action = .point optional →
    ((plan.finish value rounding locale).cells.text? cell = none ∧
      (plan.finish value rounding other).cells.text? cell = none) ∨
    ∃ negative,
      (plan.finish value rounding locale).cells.text? cell = some (signed negative locale.point) ∧
      (plan.finish value rounding other).cells.text? cell = some (signed negative other.point)
  /-- The integer is one text in groups, as it was written or without its sign. -/
  integer : ∀ step cell, (step, cell) ∈ plan.program → step.action = .integer → plan.has .grouping = true →
    let written := Amount.integerText (plan.setting rounding locale) (plan.scaled value rounding locale).value
    ∃ text, (text = written ∨ text = withoutSign written) ∧
      (plan.finish value rounding locale).cells.text? cell =
        some (Amount.groupThousands locale.group text) ∧
      (plan.finish value rounding other).cells.text? cell = some (Amount.groupThousands other.group text)

section Finish

variable (regular : plan.Regular) (value : Float) (rounding : Float → Float) (locale other : Locale)
  {step : PlannedStep} {cell : Nat}
include regular

theorem Regular.finish_agrees : (plan.finish value rounding locale).Agrees plan.Unlocalized
    (plan.finish value rounding other) :=
  regular.runAfter_agrees value rounding locale other (List.append_nil _).symm

/-- The number that the steps behind the scaling see does not depend on the locale. -/
theorem Regular.scaled_agrees : (plan.scaled value rounding locale).value =
    (plan.scaled value rounding other).value :=
  (regular.runAfter_agrees value rounding locale other regular.scales_first).value

end Finish

/-- A locale only substitutes texts: under any two locales the runs of a plan pass through the same states,
and at the end they differ in the texts of the locales alone. -/
theorem locale_substitutes_text (unclaimed : Unclaimed) (serial : Nat) (pattern : String) (plan : Plan)
    (compiled : compile (standard unclaimed) serial pattern = .ok plan) (value : Float)
    (rounding : Float → Float) (locale other : Locale) : Substitution plan value rounding locale other := by
  have regular := regular_of_compile compiled
  have number := regular.scaled_agrees value rounding locale other
  refine ⟨?_, ?_, ?_, ?_, ?_⟩
  · intro before after order
    have agrees := regular.runAfter_agrees value rounding locale other order
    exact ⟨agrees.value, agrees.remainder, agrees.fraction, agrees.optionalPoint, agrees.signCell,
      agrees.cells.filled⟩
  · exact (regular.finish_agrees value rounding locale other).cells.text
  · intro step cell carriesSign member action
    have shown := regular.currency_finish value rounding locale member action
    have shown' := regular.currency_finish value rounding other member action
    rw [← number, ← signed_decide] at shown'
    rw [← signed_decide] at shown
    exact ⟨_, shown, shown'⟩
  · intro step cell optional member action
    rcases (regular.finish_agrees value rounding locale other).cells.text_cases cell with
      blank | ⟨text, text', written, written'⟩
    · exact Or.inl blank
    · have shown := regular.point_finish value rounding locale member action written
      have shown' := regular.point_finish value rounding other member action written'
      rw [← number, ← signed_decide] at shown'
      rw [← signed_decide] at shown
      exact Or.inr ⟨_, shown ▸ written, shown' ▸ written'⟩
  · intro step cell member action grouping written
    have shown := regular.integer_finish value rounding locale member action
    have shown' := regular.integer_finish value rounding other member action
    rw [← number] at shown'
    simp only [integerText, grouping, if_true, withoutSign_groupThousands] at shown shown'
    rw [← apply_ite (Amount.groupThousands _)] at shown shown'
    refine ⟨_, ?_, shown, shown'⟩
    split
    · exact Or.inr rfl
    · exact Or.inl rfl

/-- A currency symbol that begins like a minus sign and a separator of its own change the texts only. -/
theorem locale_substitutes_text_symbol :
    ∃ plan, compile (standard .echo) 0 "$0,0" = .ok plan ∧ plan.has .grouping = true ∧
      Substitution plan (-1234.5) roundHalfUp {} { currency := "-E", group := "-" } := by
  let claims : List Claim :=
    [⟨⟨14⟩, { action := .currency true, weight := Weight.currency }⟩,
      ⟨⟨7⟩, { action := .integer, weight := Weight.integer }⟩,
      ⟨⟨10⟩, { action := .group, weight := Weight.delimiter, consumed := 1 }⟩]
  have scanned : scan (standard .echo) "$0,0" = .ok claims := rfl
  have compiled : compile (standard .echo) 0 "$0,0" = .ok (ofClaims (standard .echo) 0 "$0,0" claims) :=
    compile_eq_ok_iff.mpr ⟨claims, scanned, rfl⟩
  exact ⟨_, compiled, rfl, locale_substitutes_text .echo 0 "$0,0" _ compiled (-1234.5) roundHalfUp {} _⟩

end Plan

end NumberPattern
