import NumberPattern.Run

/-! Steps that show the sign of the value. The run remembers one cell that shows it; a step that
shows the sign in its own way takes the sign away from that cell first. -/

namespace NumberPattern.Sign

def takeBack (run : Run) : Run :=
  match run.signCell with
  | some cell => { run with cells := run.cells.stripSign cell }
  | none => run

def openParen : Effect := fun _ cell run => if run.isNegative then run.write cell "(" else run

def plus : Effect := fun _ cell run =>
  if 0.0 < run.value then { run.write cell "+" with signCell := some cell } else run

def closeParen : Effect := fun _ cell run =>
  if run.isNegative then { (takeBack run).write cell ")" with signCell := none } else run

def isWrapped (setting : Setting) (run : Run) : Bool :=
  match setting.layout.tokenCell? .closeParen with
  | some paren => run.cells.isFilled paren
  | none => false

def currency (carriesSign : Bool) : Effect := fun setting cell run =>
  let symbol := setting.locale.currency
  if run.isNegative && carriesSign && !isWrapped setting run then
    { (takeBack run).write cell ("-" ++ symbol) with signCell := some cell }
  else run.write cell symbol

def minus : Effect := fun _ cell run =>
  if run.isNegative then { (takeBack run).write cell "-" with signCell := some cell } else run

end NumberPattern.Sign
