import Mathlib.Data.List.Basic
import NumberPattern.Proofs.Lexicon.Dispatch

/-! The lexicon of the standard tokens in closed form: the claimant of each token, the tokens that a
character calls in the order in which they are asked, and how the tally of a scan reads tokens. -/

namespace NumberPattern

namespace Token

/-- The standard tokens take the numbers after that of the rule for unclaimed text. -/
def claimantId : Token → ClaimantId
  | percent => ⟨2⟩
  | byteUnit => ⟨3⟩
  | abbreviation => ⟨4⟩
  | openParen => ⟨5⟩
  | plus => ⟨6⟩
  | integer => ⟨7⟩
  | ordinal => ⟨8⟩
  | clock => ⟨9⟩
  | grouping => ⟨10⟩
  | point => ⟨11⟩
  | decimals => ⟨12⟩
  | closeParen => ⟨13⟩
  | currency => ⟨14⟩
  | minus => ⟨15⟩

theorem claimantId_injective {token other : Token} (same : token.claimantId = other.claimantId) :
    token = other := by
  cases token <;> cases other <;> first | rfl | cases same

@[simp] theorem claimantId_inj {token other : Token} :
    token.claimantId = other.claimantId ↔ token = other :=
  ⟨claimantId_injective, congrArg claimantId⟩

@[simp] theorem claimantId_ne_fallback (token : Token) : token.claimantId ≠ Lexicon.fallbackId := by
  cases token <;> decide

def entry (token : Token) : Entry := ⟨token.claimantId, token.claimant⟩

/-- The characters that call a standard token. -/
def callers : List Char := ['%', 'b', 'a', '(', '+', '0', 'o', ',', '.', '[', ')', '$', '-']

/-- The tokens that a character calls, in the order in which they are asked. -/
def calledBy (c : Char) : List Token :=
  match c with
  | '%' => [percent]
  | 'b' => [byteUnit]
  | 'a' => [abbreviation]
  | '(' => [openParen]
  | '+' => [plus]
  | '0' => [clock, integer, decimals]
  | 'o' => [ordinal]
  | ',' => [grouping]
  | '.' => [point]
  | '[' => [point, decimals]
  | ')' => [closeParen]
  | '$' => [currency]
  | '-' => [minus]
  | _ => []

theorem calledBy_eq_nil {c : Char} : calledBy c = [] ↔ c ∉ callers := by
  unfold calledBy
  split <;> simp_all [callers]

theorem mem_calledBy {c : Char} {token : Token} : token ∈ calledBy c ↔ c ∈ token.triggers.toList := by
  unfold calledBy
  split <;> cases token <;> simp_all [triggers]

end Token

namespace Lexicon
variable (unclaimed : Unclaimed)

theorem standard_tokens :
    (standard unclaimed).tokens = Token.all.map fun token => (token, token.claimantId) := by
  cbv

theorem standard_index :
    (standard unclaimed).index = Token.callers.map fun c => (c, (Token.calledBy c).map Token.entry) := by
  cbv

theorem unclaimed_standard : (standard unclaimed).unclaimed = unclaimed := rfl

theorem lookup_map_key {α β : Type} [BEq α] [LawfulBEq α] (keys : List α) (value : α → β) (key : α) :
    (keys.map fun key => (key, value key)).lookup key =
      if keys.elem key then some (value key) else none := by
  induction keys with
  | nil => rfl
  | cons first keys ih =>
    by_cases same : key = first
    · simp [same]
    · simp [List.lookup_cons, ih, beq_false_of_ne same, same]

theorem called_standard (c : Char) :
    (standard unclaimed).called c = (Token.calledBy c).map Token.entry := by
  rw [called, standard_index, lookup_map_key]
  by_cases calling : c ∈ Token.callers
  · simp [calling]
  · simp [calling, Token.calledBy_eq_nil.mpr calling]

theorem isTrigger_standard (c : Char) :
    (standard unclaimed).isTrigger c = decide (c ∈ Token.callers) := by
  rw [isTrigger, standard_index, lookup_map_key]
  by_cases calling : c ∈ Token.callers <;> simp [calling]

theorem tokenId_standard (token : Token) :
    (standard unclaimed).tokens.lookup token = some token.claimantId := by
  rw [standard_tokens, lookup_map_key]
  simp [Token.mem_all token]

theorem token_standard (token : Token) : (standard unclaimed).token? token.claimantId = some token := by
  rw [token?, standard_tokens]
  cases token <;> rfl

theorem token_fallback : (standard unclaimed).token? fallbackId = none := by
  rw [token?, standard_tokens]
  rfl

end Lexicon

/-- A tally on which the standard tokens are registered. -/
def Tally.Standard (tally : Tally) : Prop :=
  tally.tokens = Token.all.map fun token => (token, token.claimantId)

theorem Tally.Standard.hasToken {tally : Tally} (standard : tally.Standard) (token : Token) :
    tally.hasToken token = tally.hasWon token.claimantId := by
  have found := Lexicon.tokenId_standard .echo token
  rw [Lexicon.standard_tokens] at found
  rw [Tally.hasToken, standard, found]

end NumberPattern
