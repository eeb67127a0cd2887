import NumberPattern.Proofs.Token.Step

/-! What the steps do to the cells and to the cell that shows the sign. A step writes to its own cell;
of the others it touches at most the integer, the point, or the cell that shows the sign. -/

namespace NumberPattern

/-- A text with or without a minus sign before it. -/
def signed (negative : Bool) (text : String) : String := if negative then "-" ++ text else text

theorem signed_decide (negative : Prop) [Decidable negative] (text : String) :
    signed (decide negative) text = if negative then "-" ++ text else text := by
  simp only [signed, decide_eq_true_eq]

namespace Amount

/-- The text of the integer step. -/
def integerText (setting : Setting) (value : Float) : String :=
  match setting.precision.places with
  | none | some 0 => Decimal.shortest (setting.rounding value + 0.0)
  | some places => (split setting.rounding places value).whole

/-- The decimals that the integer step leaves for later. -/
def integerFraction (setting : Setting) (value : Float) (before : Option String) : Option String :=
  match setting.precision.places with
  | none | some 0 => before
  | some places => some (split setting.rounding places value).fraction

theorem integer_eq (setting : Setting) (cell : Nat) (run : Run) :
    integer setting cell run =
      { run.write cell (integerText setting run.value) with
        signCell := if run.isNegative then some cell else run.signCell
        fraction := integerFraction setting run.value run.fraction } := by
  unfold integer integerText integerFraction
  split <;> cases setting.precision.places with
  | none => rfl
  | some places => cases places <;> rfl

theorem writePoint_eq (point : String) (cell : Nat) (run : Run) :
    writePoint point cell run =
      { run.write cell (signed (run.isNegative && run.signCell.isNone) point) with
        signCell := if run.isNegative && run.signCell.isNone then some cell else run.signCell } := by
  unfold writePoint signed
  split <;> rfl

def writesPoint (optional : Bool) (run : Run) : Bool := !(optional && run.remainder == 0.0)

/-- Whether there are decimals to write behind a point. -/
def keeps (setting : Setting) (places optional : Nat) (run : Run) : Bool :=
  let digits := trimZeros optional (decimalsOf setting places run).toList
  !digits.isEmpty && (!run.optionalPoint || digits.any (· ≠ '0'))

theorem decimals_eq (places optional : Nat) (setting : Setting) (cell : Nat) (run : Run) :
    decimals places optional setting cell run =
      match setting.layout.tokenCell? .point with
      | none => run
      | some pointCell =>
          if run.cells.isFilled pointCell then
            if keeps setting places optional run then
              run.write cell (String.ofList (trimZeros optional (decimalsOf setting places run).toList))
            else { run with cells := run.cells.clear pointCell }
          else run := rfl

end Amount

namespace Action

def isScale : Action → Bool
  | percent | byteUnit | abbreviate _ => true
  | _ => false

/-- Whether a currency symbol takes the sign to itself. -/
def takesSign (setting : Setting) (run : Run) (carriesSign : Bool) : Bool :=
  run.isNegative && carriesSign && !Sign.isWrapped setting run

/-- The cell that shows the sign after the action. -/
def bearer (setting : Setting) (cell : Nat) (run : Run) : Action → Option Nat
  | plus => if 0.0 < run.value then some cell else run.signCell
  | integer | minus => if run.isNegative then some cell else run.signCell
  | point optional =>
      if Amount.writesPoint optional run && run.isNegative && run.signCell.isNone then some cell
      else run.signCell
  | closeParen => if run.isNegative then none else run.signCell
  | currency carriesSign => if takesSign setting run carriesSign then some cell else run.signCell
  | _ => run.signCell

/-- A text after the sign was taken back, if it was, from the cell that shows it. -/
def stripped (run : Run) (taken : Bool) (other : Nat) (text : Option String) : Option String :=
  if taken = true ∧ run.signCell = some other then text.map withoutSign else text

theorem isSome_stripped (run : Run) (taken : Bool) (other : Nat) (text : Option String) :
    (stripped run taken other text).isSome = text.isSome := by
  unfold stripped
  split
  · exact Option.isSome_map
  · rfl

/-- What the action leaves of a text in a cell that is not its own. -/
def touch (setting : Setting) (run : Run) (other : Nat) (text : Option String) : Action → Option String
  | group =>
      if setting.layout.tokenCell? .integer = some other then
        text.map (Amount.groupThousands setting.locale.group)
      else text
  | decimals places optional =>
      if setting.layout.tokenCell? .point = some other ∧
          Amount.keeps setting places optional run = false then
        none
      else text
  | closeParen | minus => stripped run run.isNegative other text
  | currency carriesSign => stripped run (takesSign setting run carriesSign) other text
  | _ => text

variable {action : Action} {setting : Setting} {cell other : Nat} {run : Run}

theorem length_takeBack : (Sign.takeBack run).cells.texts.length = run.cells.texts.length := by
  unfold Sign.takeBack
  split <;> simp

theorem text?_takeBack :
    (Sign.takeBack run).cells.text? other = stripped run true other (run.cells.text? other) := by
  unfold Sign.takeBack
  split
  next cell shown =>
    by_cases same : cell = other
    · simp [stripped, shown, same]
    · simp [stripped, shown, same, Ne.symm same]
  next unshown => simp [stripped, unshown]

/-- What an action passes on as it found it. -/
structure Passes (action : Action) (run after : Run) : Prop where
  value : action.isScale = false → after.value = run.value
  remainder : action.isScale = false → after.remainder = run.remainder
  fraction : action ≠ .integer → after.fraction = run.fraction
  optionalPoint : (∀ optional, action ≠ .point optional) → after.optionalPoint = run.optionalPoint

/-- What the run is after an action, the text of its own cell apart. -/
structure Effected (setting : Setting) (cell : Nat) (run : Run) (action : Action) (after : Run) : Prop where
  length : after.cells.texts.length = run.cells.texts.length
  signCell : after.signCell = action.bearer setting cell run
  other : ∀ other, other ≠ cell →
    after.cells.text? other = action.touch setting run other (run.cells.text? other)
  passes : action.Passes run after

variable {after : Run}

/-- Only the cells and the place of the sign change. -/
theorem Passes.same (kept : after = { run with cells := after.cells, signCell := after.signCell }) :
    action.Passes run after :=
  ⟨fun _ => by rw [kept], fun _ => by rw [kept], fun _ => by rw [kept], fun _ => by rw [kept]⟩

/-- Scaling changes the value and its remainder, too. -/
theorem Passes.scaled (scale : action.isScale = true)
    (kept : after = { after with fraction := run.fraction, optionalPoint := run.optionalPoint }) :
    action.Passes run after :=
  ⟨by simp [scale], by simp [scale], fun _ => by rw [kept], fun _ => by rw [kept]⟩

theorem takeBack_eq : Sign.takeBack run =
    { run with cells := (Sign.takeBack run).cells, signCell := (Sign.takeBack run).signCell } := by
  unfold Sign.takeBack
  split <;> rfl

theorem Passes.takenBack
    (kept : after = { Sign.takeBack run with cells := after.cells, signCell := after.signCell }) :
    action.Passes run after := by
  apply Passes.same
  rw [takeBack_eq] at kept
  exact kept

/-- Actions that leave the cells and the sign as they are. -/
theorem Effected.of_still
    (quiet : ∀ other, action.touch setting run other (run.cells.text? other) = run.cells.text? other)
    (cells : after.cells = run.cells) (shown : after.signCell = action.bearer setting cell run)
    (passes : action.Passes run after) : Effected setting cell run action after :=
  ⟨by rw [cells], shown, fun other _ => by rw [cells, quiet], passes⟩

/-- Actions that write to their own cell only, wherever they put the sign. -/
theorem Effected.of_write (quiet : ∀ other text, action.touch setting run other text = text) (text : String)
    (cells : after.cells = run.cells.write cell text)
    (shown : after.signCell = action.bearer setting cell run)
    (passes : action.Passes run after) : Effected setting cell run action after :=
  ⟨by simp [cells], shown, fun other different => by simp [cells, quiet, different], passes⟩

/-- Actions that take the sign back before they write their own cell. -/
theorem Effected.of_takeBack
    (taken : ∀ other text, action.touch setting run other text = stripped run true other text)
    (text : String) (cells : after.cells = (Sign.takeBack run).cells.write cell text)
    (shown : after.signCell = action.bearer setting cell run)
    (passes : action.Passes run after) : Effected setting cell run action after := by
  refine ⟨by simp [cells, length_takeBack], shown, fun other different => ?_, passes⟩
  rw [cells, Cells.text?_write_other different, text?_takeBack, taken]

theorem effected_plus : Effected setting cell run .plus (plus.perform setting cell run) := by
  simp only [perform, Sign.plus]
  split
  next positive => exact .of_write (fun _ _ => rfl) "+" rfl (by simp [bearer, positive]) (.same rfl)
  next other => exact .of_still (fun _ => rfl) rfl (by simp [bearer, other]) (.same rfl)

theorem effected_integer : Effected setting cell run .integer (integer.perform setting cell run) := by
  rw [perform, Amount.integer_eq]
  exact .of_write (fun _ _ => rfl) _ rfl rfl
    ⟨fun _ => rfl, fun _ => rfl, fun other => absurd rfl other, fun _ => rfl⟩

theorem effected_group : Effected setting cell run .group (group.perform setting cell run) := by
  simp only [perform, Amount.group]
  split
  next unknown => exact .of_still (by simp [touch, unknown]) rfl rfl (.same rfl)
  next integerCell found =>
    split
    next text written =>
      refine ⟨Cells.length_write, rfl, fun other different => ?_, .same rfl⟩
      by_cases same : other = integerCell
      · subst other
        rw [Run.write, Cells.text?_write_self (Cells.inside_of_text written)]
        simp [touch, found, written]
      · rw [Run.write, Cells.text?_write_other same]
        simp [touch, found, Ne.symm same]
    next blank =>
      refine .of_still (fun other => ?_) rfl rfl (.same rfl)
      by_cases same : integerCell = other
      · simp [touch, found, ← same, blank]
      · simp [touch, found, same]

theorem effected_point (optional : Bool) :
    Effected setting cell run (.point optional) ((point optional).perform setting cell run) := by
  have passes {after : Run} (value : after.value = run.value) (remainder : after.remainder = run.remainder)
      (fraction : after.fraction = run.fraction) : (point optional).Passes run after :=
    ⟨fun _ => value, fun _ => remainder, fun _ => fraction, fun other => absurd rfl (other optional)⟩
  simp only [perform, Amount.point, Amount.writePoint_eq]
  cases optional with
  | false => exact .of_write (fun _ _ => rfl) _ rfl rfl (passes rfl rfl rfl)
  | true =>
    by_cases whole : (run.remainder == 0.0) = true
    · simp only [whole, if_true]
      exact .of_still (fun _ => rfl) rfl (by simp [bearer, Amount.writesPoint, whole]) (passes rfl rfl rfl)
    · simp only [whole, Bool.false_eq_true, if_false, if_true]
      refine .of_write (fun _ _ => rfl) _ rfl ?_ (passes rfl rfl rfl)
      simp [bearer, Amount.writesPoint, whole, Run.isNegative]

theorem effected_decimals (places optional : Nat) :
    Effected setting cell run (.decimals places optional)
      ((decimals places optional).perform setting cell run) := by
  simp only [perform, Amount.decimals_eq]
  split
  next unknown => exact .of_still (by simp [touch, unknown]) rfl rfl (.same rfl)
  next pointCell found =>
    by_cases kept : Amount.keeps setting places optional run = true
    · have quiet (other : Nat) (text : Option String) :
          touch setting run other text (.decimals places optional) = text := by simp [touch, kept]
      simp only [kept, if_true]
      split
      · exact .of_write quiet _ rfl rfl (.same rfl)
      · exact .of_still (fun other => quiet other _) rfl rfl (.same rfl)
    · simp only [kept]
      split
      · refine ⟨Cells.length_clear, rfl, fun other _ => ?_, .same rfl⟩
        by_cases same : other = pointCell
        · simp [touch, found, same, kept]
        · simp [touch, found, Ne.symm same, same]
      next blank =>
        refine .of_still (fun other => ?_) rfl rfl (.same rfl)
        by_cases same : pointCell = other
        · simp only [Cells.isFilled, Bool.not_eq_true, Option.isSome_eq_false_iff,
            Option.isNone_iff_eq_none] at blank
          simp [touch, found, ← same, blank]
        · simp [touch, found, same]

theorem effected_closeParen :
    Effected setting cell run .closeParen (closeParen.perform setting cell run) := by
  simp only [perform, Sign.closeParen]
  split
  next negative =>
    exact .of_takeBack (by simp [touch, negative]) ")" rfl (by simp [bearer, negative]) (.takenBack rfl)
  next other =>
    exact .of_still (by simp [touch, stripped, other]) rfl (by simp [bearer, other]) (.same rfl)

theorem effected_currency (carriesSign : Bool) :
    Effected setting cell run (.currency carriesSign)
      ((currency carriesSign).perform setting cell run) := by
  by_cases taken : takesSign setting run carriesSign = true
  · have carried := taken
    rw [takesSign] at carried
    simp only [perform, Sign.currency, carried, if_true]
    exact .of_takeBack (by simp [touch, taken]) _ rfl (by simp [bearer, taken]) (.takenBack rfl)
  · have left := taken
    rw [takesSign] at left
    simp only [perform, Sign.currency, left]
    exact .of_write (by simp [touch, stripped, taken]) _ rfl (by simp [bearer, taken, Run.write])
      (.same rfl)

theorem effected_minus : Effected setting cell run .minus (minus.perform setting cell run) := by
  simp only [perform, Sign.minus]
  split
  next negative =>
    exact .of_takeBack (by simp [touch, negative]) "-" rfl (by simp [bearer, negative]) (.takenBack rfl)
  next other =>
    exact .of_still (by simp [touch, stripped, other]) rfl (by simp [bearer, other]) (.same rfl)

/-- Every action but those of a user has this effect. -/
theorem effected_perform (plain : ∀ step, action ≠ .custom step) :
    Effected setting cell run action (action.perform setting cell run) := by
  cases action with
  | custom step => exact absurd rfl (plain step)
  | skip => exact .of_still (fun _ => rfl) rfl rfl (.same rfl)
  | literal | ordinal | clock => exact .of_write (fun _ _ => rfl) _ rfl rfl (.same rfl)
  | percent => exact .of_write (fun _ _ => rfl) _ rfl rfl (.scaled rfl rfl)
  | byteUnit =>
    simp only [perform, Scale.byteUnit]
    split
    · exact .of_write (fun _ _ => rfl) _ rfl rfl (.scaled rfl rfl)
    · exact .of_still (fun _ => rfl) rfl rfl (.scaled rfl rfl)
  | abbreviate choice =>
    simp only [perform, Scale.abbreviate]
    split
    · exact .of_write (fun _ _ => rfl) _ rfl rfl (.scaled rfl rfl)
    · exact .of_still (fun _ => rfl) rfl rfl (.scaled rfl rfl)
  | openParen =>
    simp only [perform, Sign.openParen]
    split
    · exact .of_write (fun _ _ => rfl) _ rfl rfl (.same rfl)
    · exact .of_still (fun _ => rfl) rfl rfl (.same rfl)
  | plus => exact effected_plus
  | integer => exact effected_integer
  | group => exact effected_group
  | point optional => exact effected_point optional
  | decimals places optional => exact effected_decimals places optional
  | closeParen => exact effected_closeParen
  | currency carriesSign => exact effected_currency carriesSign
  | minus => exact effected_minus

/-- Whether the action takes the sign back from the cell that shows it. -/
def takes (setting : Setting) (run : Run) : Action → Bool
  | closeParen | minus => run.isNegative
  | currency carriesSign => takesSign setting run carriesSign
  | _ => false

theorem isNegative_of_takes (taken : action.takes setting run = true) : run.isNegative = true := by
  cases action with
  | closeParen | minus => exact taken
  | currency carriesSign =>
    simp only [takes, takesSign, Bool.and_eq_true] at taken
    exact taken.1.1
  | _ => cases taken

theorem token_of_takes (taken : action.takes setting run = true) :
    action.token? = some .closeParen ∨ action.token? = some .currency ∨ action.token? = some .minus := by
  cases action with
  | closeParen | minus | currency => simp [token?]
  | _ => cases taken

theorem bearer_of_takes (taken : action.takes setting run = true) :
    action.bearer setting cell run = none ∨ action.bearer setting cell run = some cell := by
  cases action with
  | closeParen | minus | currency =>
    simp only [takes] at taken
    simp [bearer, taken]
  | _ => cases taken

theorem bearer_of_not_takes (kept : action.takes setting run = false) (notPlus : action.token? ≠ some .plus)
    (notInteger : action.token? ≠ some .integer) (notPoint : action.token? ≠ some .point) :
    action.bearer setting cell run = run.signCell := by
  cases action with
  | plus => exact absurd rfl notPlus
  | integer => exact absurd rfl notInteger
  | point => exact absurd rfl notPoint
  | closeParen | minus | currency =>
    simp only [takes] at kept
    simp [bearer, kept]
  | _ => rfl

theorem bearer_ne_of_takes (taken : action.takes setting run = true) (different : other ≠ cell) :
    action.bearer setting cell run ≠ some other := by
  rcases (bearer_of_takes taken : action.bearer setting cell run = none ∨ _) with bare | own
  · simp [bare]
  · simp [own, different.symm]

/-- A cell of another step loses at most its sign, unless the step groups the integer or drops the
point. -/
theorem Effected.text_other (effected : Effected setting cell run action after) (different : other ≠ cell)
    (ungrouped : action.token? = some .grouping → setting.layout.tokenCell? .integer ≠ some other)
    (undropped : action.token? = some .decimals → setting.layout.tokenCell? .point ≠ some other) :
    after.cells.text? other = stripped run (action.takes setting run) other (run.cells.text? other) := by
  rw [effected.other other different]
  cases action with
  | closeParen | currency | minus => rfl
  | group => simp [touch, takes, stripped, ungrouped rfl]
  | decimals => simp [touch, takes, stripped, undropped rfl]
  | _ => simp [touch, takes, stripped]

/-- A text that another step does not group is lost or loses at most its sign. -/
theorem Effected.text_kept {text : String} (effected : Effected setting cell run action after)
    (different : other ≠ cell)
    (ungrouped : action.token? = some .grouping → setting.layout.tokenCell? .integer ≠ some other)
    (written : after.cells.text? other = some text) :
    after.cells.text? other = stripped run (action.takes setting run) other (run.cells.text? other) := by
  cases action with
  | decimals places optional =>
    rw [effected.other other different, touch] at written ⊢
    split at written
    · cases written
    next keeps => simp [keeps, stripped, takes]
  | _ => exact effected.text_other different ungrouped (by rintro ⟨⟩)

theorem currency_perform (carriesSign : Bool)
    (inside : cell < run.cells.texts.length) :
    (Sign.currency carriesSign setting cell run).cells.text? cell =
      some (signed (takesSign setting run carriesSign) setting.locale.currency) := by
  have inside' : cell < (Sign.takeBack run).cells.texts.length := by
    rw [length_takeBack]
    exact inside
  unfold Sign.currency takesSign signed
  split
  next => simp [Run.write, inside']
  next => simp [Run.write, inside]

theorem point_perform (optional : Bool) (inside : cell < run.cells.texts.length) :
    (Amount.point optional setting cell run).cells.text? cell =
      if Amount.writesPoint optional run then
        some (signed (run.isNegative && run.signCell.isNone) setting.locale.point)
      else run.cells.text? cell := by
  simp only [Amount.point, Amount.writePoint_eq, Amount.writesPoint]
  cases optional with
  | false => simp [Run.write, inside]
  | true =>
    by_cases whole : (run.remainder == 0.0) = true <;>
      simp [whole, Run.write, inside, Run.isNegative]

/-- No action fills a cell that is not its own. -/
@[simp] theorem touch_none : action.touch setting run other none = none := by
  cases action <;> simp [touch, stripped]

/-- A text that bears a sign exactly where the sign is shown keeps doing so when the sign is taken. -/
theorem stripped_signed {shown : Option Nat} {taken : Bool} (moved : taken = true → shown ≠ some other)
    (stayed : taken = false → shown = run.signCell) (text : String) :
    stripped run taken other (some (signed (decide (run.signCell = some other)) text)) =
      some (signed (decide (shown = some other)) text) := by
  cases taken with
  | false => simp [stripped, stayed rfl]
  | true => by_cases before : run.signCell = some other <;> simp [stripped, signed, before, moved rfl]

/-- A text that was written with a sign and is without it wherever the sign is shown elsewhere. -/
theorem stripped_unsigned {shown : Option Nat} {taken : Bool} {negative : Prop} [Decidable negative]
    (only : taken = true → negative) (moved : taken = true → shown ≠ some other)
    (stayed : taken = false → shown = run.signCell) (text : String) :
    stripped run taken other
        (some (if negative ∧ run.signCell ≠ some other then withoutSign text else text)) =
      some (if negative ∧ shown ≠ some other then withoutSign text else text) := by
  cases taken with
  | false => simp [stripped, stayed rfl]
  | true => by_cases before : run.signCell = some other <;> simp [stripped, before, moved rfl, only rfl]

end Action

end NumberPattern
