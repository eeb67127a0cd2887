import NumberPattern.Text.CaseTable

/-! Lower-casing of a whole text. Characters are mapped one by one, except that a dotted capital I
becomes two characters and that a capital sigma at the end of a word takes its final form. -/

namespace NumberPattern.Text

def CaseRun.covers (run : CaseRun) (code : Nat) : Bool :=
  run.first ≤ code && code ≤ run.last && (code - run.first) % run.step == 0

def lowerChar (c : Char) : Char :=
  match caseRuns.find? (·.covers c.toNat) with
  | some run => Char.ofNat (c.toNat + run.shift).toNat
  | none => c

def within (ranges : List (Nat × Nat)) (c : Char) : Bool :=
  ranges.any fun range => range.1 ≤ c.toNat && c.toNat ≤ range.2

def isIgnorable (c : Char) : Bool := within ignorableRanges c

def isCased (c : Char) : Bool := within casedRanges c

/-- Whether the next character that counts is a letter with case. -/
def touchesWord (text : List Char) : Bool :=
  match text.find? (!isIgnorable ·) with
  | some c => isCased c
  | none => false

/-- The lower-case form of `c` standing between `before`, nearest first, and `after`. -/
def lowerBetween (before : List Char) (c : Char) (after : List Char) : List Char :=
  match c with
  | 'İ' => ['i', '\u0307']
  | 'Σ' => if touchesWord before && !touchesWord after then ['ς'] else ['σ']
  | c => [lowerChar c]

def lowerFrom : (before text : List Char) → List Char
  | _, [] => []
  | before, c :: rest => lowerBetween before c rest ++ lowerFrom (c :: before) rest

def lowerCase (text : String) : String := String.ofList (lowerFrom [] text.toList)

end NumberPattern.Text
