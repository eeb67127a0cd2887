import NumberPattern.Decimal.Digits
import NumberPattern.Run

/-! A number of seconds as hours, minutes and seconds. -/

namespace NumberPattern.Clock

/-- What a clock needs of a library of time spans. -/
structure Spans where
  Span : Type
  /-- Nothing for a number of seconds that is too large for a span. -/
  ofSeconds? : Int64 → Option Span
  hours : Span → Int64
  minutes : Span → Int64
  seconds : Span → Int64

/-- Spans of whole seconds whose milliseconds fit 64 bits. -/
def Spans.standard : Spans where
  Span := Int64
  ofSeconds? seconds :=
    if -0x8000000000000000 ≤ seconds.toInt * 1000 ∧ seconds.toInt * 1000 ≤ 0x7fffffffffffffff then some seconds
    else none
  hours span := span / 3600
  minutes span := span / 60
  seconds span := span

structure Time where
  hours : Int
  minutes : Int64
  seconds : Int64
deriving DecidableEq, Repr

def Time.ofSpan (spans : Spans) (span : spans.Span) : Time where
  hours := (spans.hours span).toInt
  minutes := spans.minutes span % 60
  seconds := spans.seconds span % 60

/-- All three parts have the sign of the total. -/
def Time.ofSeconds (total : Int) : Time where
  hours := total.tdiv 3600
  minutes := Int64.ofInt ((total.tdiv 60).tmod 60)
  seconds := Int64.ofInt (total.tmod 60)

def int64? (n : Int) : Option Int64 :=
  if -0x8000000000000000 ≤ n ∧ n ≤ 0x7fffffffffffffff then some (Int64.ofInt n) else none

/-- Totals are kept within 128 bits. -/
def wholeSeconds : Float → Int :=
  Double.clampedInt (-0x80000000000000000000000000000000) 0x7fffffffffffffffffffffffffffffff

/-- A total that is too large for a span is divided on its own. -/
def Time.split (spans : Spans) (total : Float) : Time :=
  match (int64? (wholeSeconds total)).bind spans.ofSeconds? with
  | some span => ofSpan spans span
  | none => ofSeconds (wholeSeconds total)

/-- At least `width` characters, of which a minus sign is one. -/
def integerText (width : Nat) (n : Int) : String :=
  if n < 0 then "-" ++ String.ofList (Decimal.padded (width - 1) n.natAbs)
  else String.ofList (Decimal.padded width n.natAbs)

def Time.text (time : Time) : String :=
  integerText 1 time.hours ++ ":" ++ integerText 2 time.minutes.toInt ++ ":" ++
    integerText 2 time.seconds.toInt

def elapsedBy (spans : Spans) : Effect := fun setting cell run =>
  let total := setting.rounding run.value.abs
  let sign := if run.isNegative && 0.0 < total then "-" else ""
  run.write cell (sign ++ (Time.split spans total).text)

def elapsed : Effect := elapsedBy .standard

end NumberPattern.Clock
