import NumberPattern.Claimant

/-! How the standard tokens are claimed. The text of a site starts with the character that called the
claimant; most tokens are claimed once, and some only after another one. -/

namespace NumberPattern.Token

def zeros (text : List Char) : Nat := (text.takeWhile (· = '0')).length

def clockTemplate : List Char := ['0', '0', ':', '0', '0', ':', '0', '0']

/-- A letter directly after the abbreviation forces its magnitude. -/
def claimAbbreviation (rest : List Char) : Step :=
  match rest with
  | _ :: c :: _ =>
      match Magnitude.ofLetter? c with
      | some magnitude =>
          { action := .abbreviate (.forced magnitude), weight := Weight.scale, consumed := 1 }
      | none => { action := .abbreviate .bestFit, weight := Weight.scale }
  | _ => { action := .abbreviate .bestFit, weight := Weight.scale }

/-- A comma takes the integer placeholder that follows it. -/
def claimGrouping (rest : List Char) : Step where
  action := .group
  weight := Weight.delimiter
  consumed := match rest with
    | _ :: '0' :: _ => 1
    | _ => 0

/-- A point is written `.`, or `[.]` when it is optional. -/
def claimPoint (site : Site) : Except Failure (Option Step) :=
  match site.rest with
  | '.' :: _ => .ok (some { action := .point false, weight := Weight.delimiter })
  | '[' :: '.' :: ']' :: _ =>
      .ok (some { action := .point true, weight := Weight.delimiter, consumed := 2 })
  | '[' :: '.' :: _ => .error (site.malformed .openPoint)
  | _ => .ok none

/-- What follows the mandatory decimals. -/
inductive Tail where
  /-- Optional decimals in brackets. -/
  | closed (count : Nat)
  /-- A bracket with zeros that is not closed after them, or a bracket at the end of the text. -/
  | unclosed
  | absent
deriving DecidableEq, Repr

def tail : List Char → Tail
  | '[' :: inner =>
      match zeros inner, inner.drop (zeros inner) with
      | 0, [] => .unclosed
      | 0, _ => .absent
      | count, ']' :: _ => .closed count
      | _, _ => .unclosed
  | _ => .absent

def decimalsStep (mandatory optional consumed : Nat) : Step where
  action := .decimals (mandatory + optional) optional
  weight := Weight.decimals
  consumed := consumed
  fragment := some ⟨some (mandatory + optional), some optional⟩

/-- Decimals are a run of zeros with an optional tail `[0…]`; one of the two may be missing. -/
def claimDecimals (site : Site) : Except Failure (Option Step) :=
  let mandatory := zeros site.rest
  match tail (site.rest.drop mandatory) with
  | .closed optional => .ok (some (decimalsStep mandatory optional (mandatory + optional + 1)))
  | .unclosed => .error (site.malformed .openDecimals mandatory)
  | .absent => .ok (if mandatory = 0 then none else some (decimalsStep mandatory 0 (mandatory - 1)))

/-- Only a symbol ahead of every other token that may show the sign carries the sign itself. -/
def currencyCarriesSign (tally : Tally) : Bool :=
  !tally.hasToken .integer && !tally.hasToken .point && !tally.hasToken .minus &&
    !tally.hasToken .openParen

def plain (action : Action) (weight : Int) : Except Failure (Option Step) :=
  .ok (some { action := action, weight := weight })

def claim (token : Token) (id : ClaimantId) (tally : Tally) (site : Site) :
    Except Failure (Option Step) :=
  let fresh := !tally.hasWon id
  match token with
  | percent => if fresh then plain .percent Weight.scale else .ok none
  | byteUnit => plain .byteUnit Weight.scale
  | abbreviation => .ok (some (claimAbbreviation site.rest))
  | openParen => if fresh then plain .openParen Weight.leadingSign else .ok none
  | plus => if fresh then plain .plus Weight.leadingSign else .ok none
  | integer => if fresh && !tally.hasToken .point then plain .integer Weight.integer else .ok none
  | ordinal => plain .ordinal Weight.integer
  | clock =>
      if clockTemplate.isPrefixOf site.rest then
        .ok (some { action := .clock, weight := Weight.integer, consumed := clockTemplate.length - 1 })
      else .ok none
  | grouping =>
      .ok (if fresh && tally.hasToken .integer then some (claimGrouping site.rest) else none)
  | point => if fresh then claimPoint site else .ok none
  | decimals => if fresh && tally.hasToken .point then claimDecimals site else .ok none
  | closeParen =>
      if fresh && tally.hasToken .openParen then plain .closeParen Weight.trailingSign else .ok none
  | currency =>
      if fresh then plain (.currency (currencyCarriesSign tally)) Weight.currency else .ok none
  | minus => if fresh then plain .minus Weight.minus else .ok none

def claimant (token : Token) : Claimant where
  triggers := token.triggers
  priority := token.priority
  claim := token.claim

end NumberPattern.Token
