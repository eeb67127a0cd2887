import NumberPattern.Proofs.Lexicon.Standard
import NumberPattern.Proofs.Token.Step

/-! The characters that belong to one token alone: no other token is called by them or takes them beyond its
first character. The letter behind an abbreviation forces its magnitude. -/

namespace NumberPattern

/-- The letter that forces a magnitude. -/
def Magnitude.letter : Magnitude → Char
  | thousand => 'K'
  | million => 'M'
  | billion => 'B'
  | trillion => 'T'

theorem Magnitude.ofLetter?_eq_some {c : Char} {magnitude : Magnitude} :
    ofLetter? c = some magnitude ↔ c = magnitude.letter := by
  constructor
  · intro found
    unfold ofLetter? at found
    split at found <;> cases found <;> rfl
  · rintro rfl
    cases magnitude <;> rfl

/-- The choice that the text behind an abbreviation makes. -/
def Abbreviation.chosenBy (rest : List Char) : Abbreviation :=
  (rest.head?.bind Magnitude.ofLetter?).elim .bestFit .forced

theorem Abbreviation.chosenBy_eq_forced {rest : List Char} {magnitude : Magnitude} :
    chosenBy rest = .forced magnitude ↔ rest.head? = some magnitude.letter := by
  cases rest with
  | nil => simp [chosenBy]
  | cons letter rest =>
    rw [chosenBy, List.head?_cons, Option.bind_some, Option.some.injEq, ← Magnitude.ofLetter?_eq_some]
    cases Magnitude.ofLetter? letter <;> simp

namespace Token

theorem action_claimAbbreviation (c : Char) (rest : List Char) :
    (claimAbbreviation (c :: rest)).action = .abbreviate (.chosenBy rest) := by
  cases rest with
  | nil => rfl
  | cons letter rest =>
    rw [claimAbbreviation, Abbreviation.chosenBy, List.head?_cons, Option.bind_some]
    cases Magnitude.ofLetter? letter <;> rfl

/-- The character of a token that calls no other one. -/
def symbol? : Token → Option Char
  | percent => some '%'
  | byteUnit => some 'b'
  | abbreviation => some 'a'
  | openParen => some '('
  | plus => some '+'
  | ordinal => some 'o'
  | grouping => some ','
  | closeParen => some ')'
  | currency => some '$'
  | minus => some '-'
  | integer | clock | point | decimals => none

variable {token other : Token} {c : Char} {id : ClaimantId} {tally : Tally} {site : Site}

theorem calledBy_symbol (own : token.symbol? = some c) : calledBy c = [token] := by
  cases token <;> cases own <;> rfl

theorem symbol_calls (own : token.symbol? = some c) : c ∈ other.triggers.toList ↔ other = token := by
  rw [← mem_calledBy, calledBy_symbol own, List.mem_singleton]

theorem mem_triggers_symbol (own : token.symbol? = some c) {d : Char} : d ∈ token.triggers.toList ↔ d = c := by
  cases token <;> cases own <;> simp [triggers]

theorem symbol_mem_callers (own : token.symbol? = some c) : c ∈ callers := by
  rw [← not_not (a := c ∈ callers), ← calledBy_eq_nil, calledBy_symbol own]
  exact List.cons_ne_nil _ _

theorem symbol_not_swallowed (own : token.symbol? = some c) (other : Token) : c ∉ other.swallows := by
  cases token <;> cases own <;> cases other <;> decide

/-- Nothing but the tally keeps such a token from claiming its character. -/
theorem claim_symbol_eq_none (own : token.symbol? = some c) :
    token.claim id tally site = .ok none ↔ ¬ Admitted token id tally := by
  rw [claim_eq, ← admits_iff]
  split
  next admitted => cases token <;> cases own <;> simp [offer, plain, admitted]
  next refused => simp [refused]

end Token

end NumberPattern
