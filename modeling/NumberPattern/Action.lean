import NumberPattern.Amount
import NumberPattern.Clock
import NumberPattern.Scale
import NumberPattern.Sign

/-! What the steps of a plan do. -/

namespace NumberPattern

/-- Tells the objects behind two custom steps apart. -/
inductive Mark where
  /-- An object that a claimant keeps, to hand it out as often as it likes. -/
  | kept (object : Nat)
  /-- An object made for one claim only. It is known by the serial number of the compilation and the
  cell of the claim, once these are settled. -/
  | made (serial cell : Nat)
deriving DecidableEq, Repr

/-- The mark of an object that has come into the given cell of a compilation. -/
def Mark.placed (serial cell : Nat) : Mark → Mark
  | kept object => kept object
  | made _ _ => made serial cell

/-- A step brought in by a claimant of the user, which decides whether each claim makes a new object.
Custom steps are compared by their marks, since effects cannot be compared. -/
structure CustomStep where
  mark : Mark := .made 0 0
  effect : CustomEffect

inductive Action where
  | literal (text : String)
  | skip
  | percent
  | byteUnit
  | abbreviate (choice : Abbreviation)
  | openParen
  | plus
  | integer
  | ordinal
  | clock
  | group
  | point (optional : Bool)
  | decimals (places optional : Nat)
  | closeParen
  | currency (carriesSign : Bool)
  | minus
  | custom (step : CustomStep)

namespace Action

/-- The same kind of action with the same data. -/
def same : Action → Action → Bool
  | literal text, literal other => text == other
  | skip, skip | percent, percent | byteUnit, byteUnit => true
  | abbreviate choice, abbreviate other => choice == other
  | openParen, openParen | plus, plus | integer, integer => true
  | ordinal, ordinal | clock, clock | group, group => true
  | point optional, point other => optional == other
  | decimals places optional, decimals places' optional' => places == places' && optional == optional'
  | closeParen, closeParen => true
  | currency carriesSign, currency other => carriesSign == other
  | minus, minus => true
  | custom step, custom other => step.mark == other.mark
  | _, _ => false

instance : BEq Action := ⟨same⟩

def placed (serial cell : Nat) : Action → Action
  | custom step => custom { step with mark := step.mark.placed serial cell }
  | action => action

/-- The suffix is that of the rounded value, kept within 64 bits. -/
def writeOrdinal : Effect := fun setting cell run =>
  let number := Double.clampedInt (-0x8000000000000000) 0x7fffffffffffffff (setting.rounding run.value)
  run.write cell (setting.locale.ordinal.suffix number)

def perform : Action → Effect
  | literal text => fun _ cell run => run.write cell text
  | skip => fun _ _ run => run
  | percent => Scale.percent
  | byteUnit => Scale.byteUnit
  | abbreviate choice => Scale.abbreviate choice
  | openParen => Sign.openParen
  | plus => Sign.plus
  | integer => Amount.integer
  | ordinal => writeOrdinal
  | clock => Clock.elapsed
  | group => Amount.group
  | point optional => Amount.point optional
  | decimals places optional => Amount.decimals places optional
  | closeParen => Sign.closeParen
  | currency carriesSign => Sign.currency carriesSign
  | minus => Sign.minus
  | custom step => fun setting cell run => (step.effect setting cell run).2

/-- The terms for the steps after the action. -/
def termsAfter (action : Action) (setting : Setting) (cell : Nat) (run : Run) : Terms :=
  match action with
  | custom step => (step.effect setting cell run).1
  | _ => setting.toTerms

end Action

/-- The outcome of a claim on a pattern. -/
structure Step where
  action : Action
  /-- Steps run in ascending order of weight. -/
  weight : Int
  /-- Characters taken beyond the one that called the claimant. -/
  consumed : Nat := 0
  fragment : Option Precision := none

end NumberPattern
