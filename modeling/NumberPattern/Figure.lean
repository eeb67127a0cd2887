import NumberPattern.Session

/-! A number that is formatted again and again, with an optional locale of its own. -/

namespace NumberPattern

structure Figure where
  value : Float
  locale : Option String := none

namespace Figure

def formatRounded (figure : Figure) (session : Session) (pattern : String)
    (rounding : Float → Float) : Except Failure String × Session :=
  session.formatWith figure.value pattern rounding (figure.locale.getD session.locale)

def format (figure : Figure) (session : Session) (pattern : String) :
    Except Failure String × Session :=
  figure.formatRounded session pattern roundHalfUp

end Figure

end NumberPattern
