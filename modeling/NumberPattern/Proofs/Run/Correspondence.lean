import Mathlib.Data.List.Forall2
import Mathlib.Logic.Relator
import NumberPattern.Proofs.Run.Effect
import NumberPattern.Proofs.Run.Terms

/-! Runs that differ in the numbers of their cells. Cells of one run are paired with cells of the other,
no cell twice. When paired cells hold the same texts and all else is the same, it stays so under any step
that both runs take at paired cells; the cells without a partner are never looked at. -/

namespace NumberPattern

variable {same : Nat → Nat → Prop} {cell cell' : Nat}

theorem rel_cases {first second : Option Nat} (related : Option.Rel same first second) :
    (first = none ∧ second = none) ∨
      ∃ cell cell', first = some cell ∧ second = some cell' ∧ same cell cell' := by
  cases related with
  | none => exact Or.inl ⟨rfl, rfl⟩
  | some paired => exact Or.inr ⟨_, _, rfl, rfl, paired⟩

/-- Paired cells hold the same texts. -/
structure Cells.Corresponds (same : Nat → Nat → Prop) (cells other : Cells) : Prop where
  text : ∀ {cell cell' : Nat}, same cell cell' → cells.text? cell = other.text? cell'
  inside : ∀ {cell cell' : Nat}, same cell cell' →
    (cell < cells.texts.length ↔ cell' < other.texts.length)

namespace Cells.Corresponds

variable {cells other : Cells} (corresponds : cells.Corresponds same other)
include corresponds

theorem isFilled (paired : same cell cell') : cells.isFilled cell = other.isFilled cell' := by
  rw [Cells.isFilled, Cells.isFilled, corresponds.text paired]

variable (oneToOne : Relator.BiUnique same)
include oneToOne

theorem write (paired : same cell cell') (text : String) :
    (cells.write cell text).Corresponds same (other.write cell' text) := by
  refine ⟨fun {first second} related => ?_, fun related => by simpa using corresponds.inside related⟩
  have own : first = cell ↔ second = cell' := Relator.rel_eq oneToOne related paired
  by_cases written : first = cell
  · rw [own.mp written, written]
    by_cases inside : cell < cells.texts.length
    · rw [text?_write_self inside, text?_write_self ((corresponds.inside paired).mp inside)]
    · have outside := mt (corresponds.inside paired).mpr inside
      simp only [Cells.text?, Cells.write]
      rw [List.getElem?_eq_none (by simpa using inside), List.getElem?_eq_none (by simpa using outside)]
  · rw [text?_write_other written, text?_write_other (mt own.mpr written)]
    exact corresponds.text related

theorem clear (paired : same cell cell') : (cells.clear cell).Corresponds same (other.clear cell') := by
  refine ⟨fun {first second} related => ?_, fun related => by simpa using corresponds.inside related⟩
  have own : first = cell ↔ second = cell' := Relator.rel_eq oneToOne related paired
  by_cases cleared : first = cell
  · rw [own.mp cleared, cleared, text?_clear_self, text?_clear_self]
  · rw [text?_clear_other cleared, text?_clear_other (mt own.mpr cleared)]
    exact corresponds.text related

theorem stripSign (paired : same cell cell') :
    (cells.stripSign cell).Corresponds same (other.stripSign cell') := by
  refine ⟨fun {first second} related => ?_, fun related => by simpa using corresponds.inside related⟩
  have own : first = cell ↔ second = cell' := Relator.rel_eq oneToOne related paired
  by_cases stripped : first = cell
  · rw [own.mp stripped, stripped, text?_stripSign_self, text?_stripSign_self, corresponds.text paired]
  · rw [text?_stripSign_other stripped, text?_stripSign_other (mt own.mpr stripped)]
    exact corresponds.text related

end Cells.Corresponds

/-- The runs are the same but for the numbers of the cells. -/
structure Run.Corresponds (same : Nat → Nat → Prop) (run other : Run) : Prop where
  value : run.value = other.value
  remainder : run.remainder = other.remainder
  fraction : run.fraction = other.fraction
  optionalPoint : run.optionalPoint = other.optionalPoint
  signCell : Option.Rel same run.signCell other.signCell
  cells : run.cells.Corresponds same other.cells

/-- The tokens of which some step looks for the cell. -/
def Token.isConsulted : Token → Bool
  | integer | point | closeParen => true
  | _ => false

/-- The settings are the same but for the numbers of the cells. -/
structure Setting.Corresponds (same : Nat → Nat → Prop) (setting other : Setting) : Prop where
  rounding : setting.rounding = other.rounding
  locale : setting.locale = other.locale
  precision : setting.precision = other.precision
  cell : ∀ token : Token, token.isConsulted = true →
    Option.Rel same (setting.layout.tokenCell? token) (other.layout.tokenCell? token)

namespace Run.Corresponds

variable {run other : Run} {setting setting' : Setting} (corresponds : run.Corresponds same other)
include corresponds

theorem isNegative : run.isNegative = other.isNegative := by
  rw [Run.isNegative, Run.isNegative, corresponds.value]

theorem rescale {value value' : Float} (equal : value = value') :
    (run.rescale value).Corresponds same (other.rescale value') := by
  subst equal
  exact { corresponds with value := rfl, remainder := rfl }

theorem unsigned : ({ run with signCell := none } : Run).Corresponds same { other with signCell := none } :=
  { corresponds with signCell := .none }

theorem signed (paired : same cell cell') :
    ({ run with signCell := some cell } : Run).Corresponds same { other with signCell := some cell' } :=
  { corresponds with signCell := .some paired }

variable (oneToOne : Relator.BiUnique same)
include oneToOne

theorem write (paired : same cell cell') {text text' : String} (equal : text = text') :
    (run.write cell text).Corresponds same (other.write cell' text') := by
  subst equal
  exact { corresponds with cells := corresponds.cells.write oneToOne paired text }

theorem takeBack : (Sign.takeBack run).Corresponds same (Sign.takeBack other) := by
  unfold Sign.takeBack
  rcases rel_cases corresponds.signCell with ⟨shown, shown'⟩ | ⟨cell, cell', shown, shown', paired⟩
  · simpa only [shown, shown'] using corresponds
  · rw [shown, shown']
    exact { corresponds with
      signCell := by simpa only [shown, shown'] using Option.Rel.some paired
      cells := corresponds.cells.stripSign oneToOne paired }

variable (paired : same cell cell')
include paired

theorem plus (setting setting' : Setting) :
    (Sign.plus setting cell run).Corresponds same (Sign.plus setting' cell' other) := by
  simp only [Sign.plus, corresponds.value]
  split
  · exact (corresponds.write oneToOne paired rfl).signed paired
  · exact corresponds

theorem closeParen (setting setting' : Setting) :
    (Sign.closeParen setting cell run).Corresponds same (Sign.closeParen setting' cell' other) := by
  simp only [Sign.closeParen, corresponds.isNegative]
  split
  · exact ((corresponds.takeBack oneToOne).write oneToOne paired rfl).unsigned
  · exact corresponds

theorem minus (setting setting' : Setting) :
    (Sign.minus setting cell run).Corresponds same (Sign.minus setting' cell' other) := by
  simp only [Sign.minus, corresponds.isNegative]
  split
  · exact ((corresponds.takeBack oneToOne).write oneToOne paired rfl).signed paired
  · exact corresponds

theorem writePoint (point : String) :
    (Amount.writePoint point cell run).Corresponds same (Amount.writePoint point cell' other) := by
  have shown : run.signCell.isNone = other.signCell.isNone := by
    rcases rel_cases corresponds.signCell with ⟨first, second⟩ | ⟨_, _, first, second, _⟩
    · rw [first, second]
    · rw [first, second]
      rfl
  simp only [Amount.writePoint, corresponds.isNegative, shown]
  split
  · exact (corresponds.write oneToOne paired rfl).signed paired
  · exact corresponds.write oneToOne paired rfl

variable (settings : setting.Corresponds same setting')
include settings

omit oneToOne paired in
theorem isWrapped : Sign.isWrapped setting run = Sign.isWrapped setting' other := by
  unfold Sign.isWrapped
  rcases rel_cases (settings.cell .closeParen rfl) with ⟨unknown, unknown'⟩ | ⟨_, _, found, found', paired⟩
  · rw [unknown, unknown']
  · rw [found, found']
    exact corresponds.cells.isFilled paired

theorem currency (carriesSign : Bool) :
    (Sign.currency carriesSign setting cell run).Corresponds same
      (Sign.currency carriesSign setting' cell' other) := by
  simp only [Sign.currency, corresponds.isNegative, corresponds.isWrapped settings, settings.locale]
  split
  · exact ((corresponds.takeBack oneToOne).write oneToOne paired rfl).signed paired
  · exact corresponds.write oneToOne paired rfl

theorem integer :
    (Amount.integer setting cell run).Corresponds same (Amount.integer setting' cell' other) := by
  have text : Amount.integerText setting run.value = Amount.integerText setting' other.value := by
    rw [Amount.integerText, Amount.integerText, settings.precision, settings.rounding, corresponds.value]
  have fraction : Amount.integerFraction setting run.value run.fraction =
      Amount.integerFraction setting' other.value other.fraction := by
    rw [Amount.integerFraction, Amount.integerFraction, settings.precision, settings.rounding,
      corresponds.value, corresponds.fraction]
  have shown : Option.Rel same (if run.isNegative then some cell else run.signCell)
      (if other.isNegative then some cell' else other.signCell) := by
    rw [corresponds.isNegative]
    split
    · exact .some paired
    · exact corresponds.signCell
  rw [Amount.integer_eq, Amount.integer_eq]
  exact { corresponds.write oneToOne paired text with fraction := fraction, signCell := shown }

omit paired in
theorem group (cell cell' : Nat) :
    (Amount.group setting cell run).Corresponds same (Amount.group setting' cell' other) := by
  unfold Amount.group
  rcases rel_cases (settings.cell .integer rfl) with ⟨unknown, unknown'⟩ | ⟨first, second, found, found', digits⟩
  · simpa only [unknown, unknown'] using corresponds
  · simp only [found, found', corresponds.cells.text digits, settings.locale]
    split
    · exact corresponds.write oneToOne digits rfl
    · exact corresponds

theorem point (optional : Bool) :
    (Amount.point optional setting cell run).Corresponds same
      (Amount.point optional setting' cell' other) := by
  rw [Amount.point, Amount.point, settings.locale]
  split
  · have marked : ({ run with optionalPoint := true } : Run).Corresponds same
        { other with optionalPoint := true } := { corresponds with optionalPoint := rfl }
    have whole : (run.remainder == 0.0) = (other.remainder == 0.0) := by rw [corresponds.remainder]
    rw [whole]
    split
    · exact corresponds
    · exact marked.writePoint oneToOne paired _
  · exact corresponds.writePoint oneToOne paired _

omit oneToOne paired in
theorem decimalsOf (places : Nat) :
    Amount.decimalsOf setting places run = Amount.decimalsOf setting' places other := by
  rw [Amount.decimalsOf, Amount.decimalsOf, corresponds.fraction, corresponds.remainder, settings.rounding]

theorem decimals (places optional : Nat) :
    (Amount.decimals places optional setting cell run).Corresponds same
      (Amount.decimals places optional setting' cell' other) := by
  unfold Amount.decimals
  rcases rel_cases (settings.cell .point rfl) with ⟨unknown, unknown'⟩ | ⟨first, second, found, found', points⟩
  · simpa only [unknown, unknown'] using corresponds
  · simp only [found, found', corresponds.cells.isFilled points, corresponds.decimalsOf settings,
      corresponds.optionalPoint]
    split
    · split
      · exact corresponds.write oneToOne paired rfl
      · exact { corresponds with
          optionalPoint := rfl, cells := corresponds.cells.clear oneToOne points }
    · exact corresponds

/-- Every action but those of a user works alike on paired cells. -/
theorem perform {action : Action} (plain : ∀ step, action ≠ .custom step) :
    (action.perform setting cell run).Corresponds same (action.perform setting' cell' other) := by
  cases action with
  | custom step => exact absurd rfl (plain step)
  | literal text => exact corresponds.write oneToOne paired rfl
  | skip => exact corresponds
  | percent =>
    exact (corresponds.write oneToOne paired rfl).rescale (congrArg (· * 100.0) corresponds.value)
  | byteUnit =>
    simp only [Action.perform, Scale.byteUnit, corresponds.value]
    split
    · exact (corresponds.write oneToOne paired rfl).rescale rfl
    · exact corresponds
  | abbreviate choice =>
    simp only [Action.perform, Scale.abbreviate, corresponds.value, settings.locale]
    split
    · exact (corresponds.write oneToOne paired rfl).rescale rfl
    · exact corresponds
  | openParen =>
    simp only [Action.perform, Sign.openParen, corresponds.isNegative]
    split
    · exact corresponds.write oneToOne paired rfl
    · exact corresponds
  | ordinal =>
    simp only [Action.perform, Action.writeOrdinal, settings.rounding, settings.locale, corresponds.value]
    exact corresponds.write oneToOne paired rfl
  | clock =>
    simp only [Action.perform, Clock.elapsed, Clock.elapsedBy, settings.rounding, corresponds.value,
      corresponds.isNegative]
    exact corresponds.write oneToOne paired rfl
  | plus => exact corresponds.plus oneToOne paired setting setting'
  | integer => exact corresponds.integer oneToOne paired settings
  | group => exact corresponds.group oneToOne settings cell cell'
  | point optional => exact corresponds.point oneToOne paired settings optional
  | decimals places optional => exact corresponds.decimals oneToOne paired settings places optional
  | closeParen => exact corresponds.closeParen oneToOne paired setting setting'
  | currency carriesSign => exact corresponds.currency oneToOne paired settings carriesSign
  | minus => exact corresponds.minus oneToOne paired setting setting'

end Run.Corresponds

/-- Steps of one action at paired cells. -/
def Plan.Paired (same : Nat → Nat → Prop) (item other : PlannedStep × Nat) : Prop :=
  item.1.action = other.1.action ∧ same item.2 other.2

/-- Runs stay the same but for the numbers of the cells when both take the same actions at paired
cells. -/
theorem Run.Corresponds.runAll {run other : Run} {setting setting' : Setting}
    (oneToOne : Relator.BiUnique same) (settings : setting.Corresponds same setting')
    {items others : List (PlannedStep × Nat)} (paired : List.Forall₂ (Plan.Paired same) items others)
    (plain : ∀ item ∈ items, ∀ step, item.1.action ≠ .custom step)
    (corresponds : run.Corresponds same other) :
    (Plan.runAll setting items run).Corresponds same (Plan.runAll setting' others other) := by
  induction paired generalizing run other with
  | nil => exact corresponds
  | @cons item item' items others first rest ih =>
    obtain ⟨own, plain⟩ := List.forall_mem_cons.mp plain
    obtain ⟨action, cells⟩ := first
    have later := ih plain (corresponds.perform oneToOne cells settings own)
    rw [Plan.runAll_cons own, Plan.runAll_cons (action ▸ own), ← action]
    exact later

end NumberPattern
