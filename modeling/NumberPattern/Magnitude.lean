/-! Powers of a thousand that a number may be abbreviated to, and the words for them. -/

namespace NumberPattern

inductive Magnitude where
  | thousand
  | million
  | billion
  | trillion
deriving DecidableEq, Repr

namespace Magnitude

/-- Smallest first. -/
def all : List Magnitude := [thousand, million, billion, trillion]

def divisor : Magnitude → Float
  | thousand => 1e3
  | million => 1e6
  | billion => 1e9
  | trillion => 1e12

/-- The range of a magnitude ends where the next one begins; the last has no end. -/
def upperBound : Magnitude → Float
  | thousand => 1e6
  | million => 1e9
  | billion => 1e12
  | trillion => 1.0 / 0.0

def ofLetter? : Char → Option Magnitude
  | 'K' => some thousand
  | 'M' => some million
  | 'B' => some billion
  | 'T' => some trillion
  | _ => none

/-- The magnitude whose range holds a size of at least a thousand. -/
def fitting? (size : Float) : Option Magnitude :=
  if thousand.divisor ≤ size then all.find? fun magnitude => size < magnitude.upperBound
  else none

end Magnitude

/-- How an abbreviation finds its magnitude: the one that fits, or a given one for values that
reach it. -/
inductive Abbreviation where
  | bestFit
  | forced (magnitude : Magnitude)
deriving DecidableEq, Repr

def Abbreviation.choose (size : Float) : Abbreviation → Option Magnitude
  | .bestFit => Magnitude.fitting? size
  | .forced magnitude => if magnitude.divisor ≤ size then some magnitude else none

structure MagnitudeWords where
  thousand : String := "k"
  million : String := "m"
  billion : String := "b"
  trillion : String := "t"
deriving DecidableEq, Repr

def MagnitudeWords.word (words : MagnitudeWords) : Magnitude → String
  | .thousand => words.thousand
  | .million => words.million
  | .billion => words.billion
  | .trillion => words.trillion

end NumberPattern
