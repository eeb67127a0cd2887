import NumberPattern.Document.Value

/-! Values written as a single word: booleans, integers, reals and moments. -/

namespace NumberPattern.Document

/-- Digits, with single underscores between them. -/
def areDigits (isDigit : Char → Bool) : List Char → Bool
  | [] => false
  | [c] => isDigit c
  | c :: '_' :: rest => isDigit c && areDigits isDigit rest
  | c :: rest => isDigit c && areDigits isDigit rest

def withoutSeparators (word : List Char) : List Char := word.filter (· ≠ '_')

def digitValue (c : Char) : Nat :=
  if c.isDigit then c.toNat - '0'.toNat
  else if 'a' ≤ c ∧ c ≤ 'f' then c.toNat - 'a'.toNat + 10
  else c.toNat - 'A'.toNat + 10

def numberIn (base : Nat) (digits : List Char) : Nat :=
  digits.foldl (fun number c => number * base + digitValue c) 0

def isHexDigit (c : Char) : Bool := c.isDigit || ('a' ≤ c && c ≤ 'f') || ('A' ≤ c && c ≤ 'F')

def isOctalDigit (c : Char) : Bool := '0' ≤ c && c ≤ '7'

def isBinaryDigit (c : Char) : Bool := c = '0' || c = '1'

/-- Decimal digits without a zero in front of others. -/
def isWhole (word : List Char) : Bool :=
  match word with
  | '0' :: rest => rest.isEmpty
  | _ => areDigits Char.isDigit word

def splitSign : List Char → Bool × List Char
  | '-' :: rest => (true, rest)
  | '+' :: rest => (false, rest)
  | word => (false, word)

def maxInteger : Nat := 0x7fffffffffffffff

def limited (number : Nat) : Option Value :=
  if number ≤ maxInteger then some (.integer number) else none

def inBase (base : Nat) (isDigit : Char → Bool) (word : List Char) : Option Value :=
  if areDigits isDigit word then limited (numberIn base (withoutSeparators word)) else none

def decimalInteger? (word : List Char) : Option Value :=
  let (isNegative, whole) := splitSign word
  if isWhole whole then
    let number := numberIn 10 (withoutSeparators whole)
    if isNegative then
      if number ≤ maxInteger + 1 then some (.integer (-number)) else none
    else limited number
  else none

def integer? (word : List Char) : Option Value :=
  match word with
  | '0' :: 'x' :: rest => inBase 16 isHexDigit rest
  | '0' :: 'o' :: rest => inBase 8 isOctalDigit rest
  | '0' :: 'b' :: rest => inBase 2 isBinaryDigit rest
  | _ => decimalInteger? word

/-- A decimal `whole . fraction e exponent`; a missing part is `none`. -/
structure RealParts where
  isNegative : Bool
  whole : List Char
  fraction : Option (List Char)
  exponent : Option (Bool × List Char)

def RealParts.ofWord (word : List Char) : RealParts :=
  let (isNegative, body) := splitSign word
  let mantissa := body.takeWhile fun c => c ≠ 'e' && c ≠ 'E'
  { isNegative := isNegative
    whole := mantissa.takeWhile (· ≠ '.')
    fraction := match mantissa.dropWhile (· ≠ '.') with
      | '.' :: fraction => some fraction
      | _ => none
    exponent := match body.drop mantissa.length with
      | _ :: exponent => some (splitSign exponent)
      | [] => none }

def RealParts.isWellFormed (parts : RealParts) : Bool :=
  isWhole parts.whole && (parts.fraction.isSome || parts.exponent.isSome) &&
    parts.fraction.all (areDigits Char.isDigit) &&
    parts.exponent.all fun exponent => areDigits Char.isDigit exponent.2

/-- Whether `mantissa * 10 ^ exponent` rounds beyond the finite doubles. Exponents that the number of
digits cannot make up for are settled without computing the power. -/
def overflows (mantissa : Nat) (exponent : Int) : Bool :=
  let digits : Int := (Nat.toDigits 10 mantissa).length
  if mantissa = 0 || digits + exponent < 300 then false
  else if 320 < digits + exponent then true
  else
    let halfwayToNext := Nat.pow 2 1024 - Nat.pow 2 970
    decide (halfwayToNext * Nat.pow 10 (-exponent).toNat ≤ mantissa * Nat.pow 10 exponent.toNat)

/-- A positive number too large for a double is refused. -/
def RealParts.isAcceptable (parts : RealParts) : Bool :=
  let fraction := withoutSeparators (parts.fraction.getD [])
  let mantissa := numberIn 10 (withoutSeparators parts.whole ++ fraction)
  let power : Int := match parts.exponent with
    | some (true, digits) => -numberIn 10 (withoutSeparators digits)
    | some (false, digits) => numberIn 10 (withoutSeparators digits)
    | none => 0
  parts.isNegative || !overflows mantissa (power - fraction.length)

def real? (word : List Char) : Option Value :=
  let parts := RealParts.ofWord word
  let special := (splitSign word).2
  if special = ['i', 'n', 'f'] ∨ special = ['n', 'a', 'n'] then some (.real (String.ofList word))
  else if parts.isWellFormed && parts.isAcceptable then some (.real (String.ofList word))
  else none

/-- The number written with exactly `width` digits at the start of the word. -/
def fixedWidth? (width : Nat) (word : List Char) : Option (Nat × List Char) :=
  let digits := word.take width
  if digits.length = width ∧ digits.all Char.isDigit then
    some (numberIn 10 digits, word.drop width)
  else none

def isLeapYear (year : Nat) : Bool := year % 4 = 0 && (year % 100 ≠ 0 || year % 400 = 0)

def daysIn (year month : Nat) : Nat :=
  if month = 2 then if isLeapYear year then 29 else 28
  else if month = 4 ∨ month = 6 ∨ month = 9 ∨ month = 11 then 30
  else 31

/-- What follows a date at the start of the word. -/
def afterDate? (word : List Char) : Option (List Char) := do
  let (year, rest) ← fixedWidth? 4 word
  let '-' :: rest := rest | none
  let (month, rest) ← fixedWidth? 2 rest
  let '-' :: rest := rest | none
  let (day, rest) ← fixedWidth? 2 rest
  if 1 ≤ month ∧ month ≤ 12 ∧ 1 ≤ day ∧ day ≤ daysIn year month then some rest else none

/-- Hours and minutes at the start of the word, and what follows them. -/
def hoursMinutes? (word : List Char) : Option (Nat × Nat × List Char) := do
  let (hours, rest) ← fixedWidth? 2 word
  let ':' :: rest := rest | none
  let (minutes, rest) ← fixedWidth? 2 rest
  some (hours, minutes, rest)

/-- How far the hours of a moment go. -/
structure HourLimits where
  lastHour : Nat
  allowsOffset : (hours minutes : Nat) → Bool

/-- The hours of a single day. -/
def HourLimits.ofDay : HourLimits := ⟨23, fun hours minutes => hours ≤ 23 && minutes ≤ 59⟩

/-- What follows a time of day at the start of the word. A minute may have a leap second. -/
def afterTime? (limits : HourLimits) (word : List Char) : Option (List Char) := do
  let (hours, minutes, ':' :: rest) ← hoursMinutes? word | none
  let (seconds, rest) ← fixedWidth? 2 rest
  if limits.lastHour < hours ∨ 59 < minutes ∨ 60 < seconds then none
  else match rest with
    | '.' :: c :: rest => if c.isDigit then some (rest.dropWhile Char.isDigit) else none
    | _ => some rest

def isOffset (limits : HourLimits) (word : List Char) : Bool :=
  match word with
  | ['Z'] | ['z'] => true
  | '+' :: rest | '-' :: rest =>
      match hoursMinutes? rest with
      | some (hours, minutes, []) => limits.allowsOffset hours minutes
      | _ => false
  | _ => false

/-- A time of day with an optional offset. -/
def isTimeOfDate (limits : HourLimits) (word : List Char) : Bool :=
  match afterTime? limits word with
  | some rest => rest.isEmpty || isOffset limits rest
  | none => false

def isMoment (limits : HourLimits) (word : List Char) : Bool :=
  match afterDate? word with
  | some [] => true
  | some (c :: rest) => (c = 'T' || c = 't' || c = ' ') && isTimeOfDate limits rest
  | none => afterTime? limits word == some []

def scalar? (word : List Char) : Option Value :=
  if word = ['t', 'r', 'u', 'e'] then some (.boolean true)
  else if word = ['f', 'a', 'l', 's', 'e'] then some (.boolean false)
  else if isMoment .ofDay word then some (.moment (String.ofList word))
  else (real? word).or (integer? word)

end NumberPattern.Document
