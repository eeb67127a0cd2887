import NumberPattern.Action

/-! Claimants look at a pattern from a position on and either take what stands there, as a step, or
decline, or find the pattern malformed. -/

namespace NumberPattern

inductive Fault where
  | pastEnd
  | openPoint
  | openDecimals
  | custom (reason : String)
deriving DecidableEq, Repr

def Fault.reason : Fault → String
  | pastEnd => "cursor past end of input"
  | openPoint => "expected ']' to close the optional decimal point"
  | openDecimals => "expected ']' to close the optional decimals"
  | custom reason => reason

/-- Positions are counted in bytes of the encoded pattern. -/
structure Malformed where
  pattern : String
  position : Nat
  fault : Fault
deriving DecidableEq, Repr

def Malformed.message (error : Malformed) : String :=
  "malformed format '" ++ error.pattern ++ "' at byte " ++ toString error.position ++ ": " ++
    error.fault.reason

/-- Why a number is not formatted. -/
inductive Failure where
  | malformed (error : Malformed)
  | unknownLocale (key : String)
deriving DecidableEq, Repr

def Failure.message : Failure → String
  | malformed error => error.message
  | unknownLocale key => "unknown locale: '" ++ key ++ "'"

/-- A place in a pattern: its position and the text from there on. -/
structure Site where
  pattern : String
  position : Nat
  rest : List Char

/-- The characters after the first `bytes` bytes. -/
def dropBytes : (bytes : Nat) → List Char → List Char
  | 0, text => text
  | _, [] => []
  | bytes + 1, c :: rest => dropBytes (bytes + 1 - c.utf8Size) rest

namespace Site

def ofPosition (pattern : String) (position : Nat) : Site :=
  ⟨pattern, position, dropBytes position pattern.toList⟩

def malformed (site : Site) (fault : Fault) (further : Nat := 0) : Failure :=
  .malformed ⟨site.pattern, site.position + further, fault⟩

end Site

/-- How often each claimant has taken something from the pattern being compiled. -/
structure Tally where
  tokens : List (Token × ClaimantId) := []
  wins : List (ClaimantId × Nat) := []
deriving DecidableEq, Repr

namespace Tally

def raise (id : ClaimantId) : List (ClaimantId × Nat) → List (ClaimantId × Nat)
  | [] => [(id, 1)]
  | (other, count) :: rest =>
      if other = id then (other, count + 1) :: rest else (other, count) :: raise id rest

def record (tally : Tally) (id : ClaimantId) : Tally := { tally with wins := raise id tally.wins }

def times (tally : Tally) (id : ClaimantId) : Nat := (tally.wins.lookup id).getD 0

def hasWon (tally : Tally) (id : ClaimantId) : Bool := 0 < tally.times id

/-- Whether the claimant registered for a standard token has taken something. -/
def hasToken (tally : Tally) (token : Token) : Bool :=
  match tally.tokens.lookup token with
  | some id => tally.hasWon id
  | none => false

end Tally

structure Claimant where
  /-- Each of these characters calls the claimant. -/
  triggers : String
  /-- Claimants of lower priority are asked first. -/
  priority : Int := 0
  /-- A failure of any kind ends the compilation and is passed on as it is. -/
  claim : ClaimantId → Tally → Site → Except Failure (Option Step)

end NumberPattern
