/-! Rules for the ordinal suffix of an integer. The sign of the integer never matters. -/

namespace NumberPattern

inductive OrdinalRule where
  | english
  | french
  | spanish
  | belgianDutch
  | turkish
  | fixed (suffix : String)
deriving DecidableEq, Repr

namespace OrdinalRule

def englishSuffix (n : Nat) : String :=
  if n % 100 / 10 = 1 then "th"
  else match n % 10 with
    | 1 => "st"
    | 2 => "nd"
    | 3 => "rd"
    | _ => "th"

def frenchSuffix (n : Nat) : String := if n = 1 then "er" else "e"

def spanishSuffix (n : Nat) : String :=
  match n % 10 with
  | 1 | 3 => "er"
  | 2 => "do"
  | 7 | 0 => "mo"
  | 8 => "vo"
  | 9 => "no"
  | _ => "to"

def belgianDutchSuffix (n : Nat) : String :=
  if n ≠ 0 ∧ n % 100 ≤ 1 ∨ n % 100 = 8 ∨ 20 ≤ n % 100 then "ste" else "de"

/-- The suffix follows the sound of a spoken number word: a unit, a multiple of ten, or hundred. -/
def turkishWordSuffix : Nat → Option String
  | 1 | 5 | 8 | 70 | 80 => some "'inci"
  | 2 | 7 | 20 | 50 => some "'nci"
  | 3 | 4 | 100 => some "'üncü"
  | 6 => some "'ncı"
  | 9 | 10 | 30 => some "'uncu"
  | 60 | 90 => some "'ıncı"
  | _ => none

/-- The last word with a suffix of its own decides: units, then tens, then hundreds. -/
def turkishSuffix (n : Nat) : String :=
  if n = 0 then "'ıncı"
  else
    let units := n % 10
    let tens := n % 100 - units
    let hundreds := if 100 ≤ n then turkishWordSuffix 100 else none
    ((turkishWordSuffix units).or ((turkishWordSuffix tens).or hundreds)).getD ""

def suffix (rule : OrdinalRule) (number : Int) : String :=
  match rule with
  | english => englishSuffix number.natAbs
  | french => frenchSuffix number.natAbs
  | spanish => spanishSuffix number.natAbs
  | belgianDutch => belgianDutchSuffix number.natAbs
  | turkish => turkishSuffix number.natAbs
  | fixed suffix => suffix

end OrdinalRule

end NumberPattern
