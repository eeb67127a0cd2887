import NumberPattern.Double.Bits
import NumberPattern.Lexicon

/-! Claimants and custom steps given as data: a rule names its conditions and the step that it makes, and
the effect of a custom step is a script of commands on the run. -/

namespace NumberPattern.Script

/-- The cell that a command is about. -/
inductive Place where
  | own
  | cell (number : Nat)
  /-- The first cell of a standard token. A command for a token without a cell is left out. -/
  | token (token : Token)
deriving DecidableEq, Repr

inductive Instruction where
  | write (text : String)
  | clear
  | strip
  /-- Write what the place holds into the own cell. -/
  | copy
  | markSign
  | unmarkSign
  | setFraction (text : Option String)
  | markOptionalPoint
  | rescale (value : Float)
  | setValue (value : Float)
  | setRemainder (value : Float)
  | round
  /-- Write the state of the run. -/
  | dump

structure Command where
  place : Place
  instruction : Instruction

def Place.cell? (place : Place) (setting : Setting) (own : Nat) : Option Nat :=
  match place with
  | .own => some own
  | .cell number => some number
  | .token standard => setting.layout.tokenCell? standard

def numberOrDash : Option Nat → String
  | some number => toString number
  | none => "-"

def dumpText (setting : Setting) (run : Run) : String :=
  "<num=" ++ Double.bitsText run.value ++ " right=" ++ Double.bitsText run.remainder ++
    " frac=" ++ run.fraction.getD "-" ++ " opt=" ++ (if run.optionalPoint then "1" else "0") ++
    " sign=" ++ numberOrDash run.signCell ++ " prec=" ++ numberOrDash setting.precision.places ++
    " tail=" ++ numberOrDash setting.precision.optional ++ " point=" ++ setting.locale.point ++ ">"

def Instruction.perform (instruction : Instruction) (setting : Setting) (own cell : Nat) (run : Run) :
    Run :=
  match instruction with
  | write text => run.write cell text
  | clear => { run with cells := run.cells.clear cell }
  | strip => { run with cells := run.cells.stripSign cell }
  | copy => run.write own ((run.cells.text? cell).getD "<none>")
  | markSign => { run with signCell := some cell }
  | unmarkSign => { run with signCell := none }
  | setFraction text => { run with fraction := text }
  | markOptionalPoint => { run with optionalPoint := true }
  | rescale value => run.rescale value
  | setValue value => { run with value := value }
  | setRemainder value => { run with remainder := value }
  | round => { run with value := setting.rounding run.value }
  | dump => run.write cell (dumpText setting run)

def effect (commands : List Command) : CustomEffect :=
  Effect.onTerms fun setting own run =>
    commands.foldl (fun run command =>
      match command.place.cell? setting own with
      | some cell => command.instruction.perform setting own cell run
      | none => run) run

inductive Condition where
  /-- The claimant itself has not claimed yet. -/
  | fresh
  | fewerThan (count : Nat)
  | claimed (token : Token)
  | unclaimed (token : Token)
  | startsWith (text : String)
  | never
deriving DecidableEq, Repr

def Condition.holds (condition : Condition) (id : ClaimantId) (tally : Tally) (site : Site) : Bool :=
  match condition with
  | fresh => !tally.hasWon id
  | fewerThan count => tally.times id < count
  | claimed token => tally.hasToken token
  | unclaimed token => !tally.hasToken token
  | startsWith text => text.toList.isPrefixOf site.rest
  | never => false

structure Rule where
  triggers : String
  priority : Int := 0
  conditions : List Condition := []
  /-- The reason why the pattern is malformed here. -/
  error : Option String := none
  step : Option Step := none

def Rule.claimant (rule : Rule) : Claimant where
  triggers := rule.triggers
  priority := rule.priority
  claim := fun id tally site =>
    if rule.conditions.all (·.holds id tally site) then
      match rule.error with
      | some reason => .error (site.malformed (.custom reason))
      | none => .ok rule.step
    else .ok none

end NumberPattern.Script
