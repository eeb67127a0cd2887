import NumberPattern.Proofs.Lexicon.Answer
import NumberPattern.Proofs.Lexicon.Registration
import NumberPattern.Proofs.Scan.Progress

/-! The claims of a run. Whoever else is registered, a claim of a token was made by the token, where the
claims before it admitted it. Over the standard lexicon every other claim is unclaimed text. -/

namespace NumberPattern.Scan
open Lexicon (standard fallbackId Answer)

variable {unclaimed : Unclaimed} {pattern : String} {claims before after : List Claim} {claim : Claim}
  {tally : Tally} {token : Token}

theorem split_at {cell : Nat} (inside : cell < claims.length) :
    claims = claims.take cell ++ claims[cell] :: claims.drop (cell + 1) := by
  rw [← List.drop_eq_getElem_cons inside, List.take_append_drop]

section
variable {lexicon : Lexicon} (holds : lexicon.HoldsTokens)
include holds

/-- The tally knows the standard tokens by their own numbers. -/
theorem Progress.standardTally (progress : Progress lexicon pattern claims tally) : tally.Standard :=
  progress.tokens_eq.trans holds.tokens

/-- A claim of a token was made by the token, on the tally of the claims before it. -/
theorem Progress.claim_of_token
    (progress : Progress lexicon pattern (before ++ claim :: after) tally)
    (won : claim.claimant = token.claimantId) :
    ∃ standing site, Progress lexicon pattern before standing ∧
      token.claim token.claimantId standing site = .ok (some claim.step) := by
  obtain ⟨standing, next, earlier, answer⟩ := progress.split
  obtain ⟨c, rest, text⟩ := siteAt_of_dispatch answer
  rw [siteAt, text] at answer
  exact ⟨standing, _, earlier, holds.taken won answer⟩

/-- A token is claimed behind its prerequisite. -/
theorem Progress.prior_claimed {prior : Token}
    (progress : Progress lexicon pattern (before ++ claim :: after) tally)
    (won : claim.claimant = token.claimantId) (needs : token.prerequisite? = some prior) :
    ∃ other ∈ before, other.claimant = prior.claimantId := by
  obtain ⟨standing, site, earlier, taken⟩ := progress.claim_of_token holds won
  have claimed := (Token.admitted_of_claim taken).prior prior needs
  rw [(earlier.standardTally holds).hasToken] at claimed
  exact earlier.hasWon_iff.mp claimed

/-- A single token is claimed at most once. -/
theorem Progress.single_claimed
    (progress : Progress lexicon pattern (before ++ claim :: after) tally)
    (won : claim.claimant = token.claimantId) (single : token.isSingle = true) :
    ∀ other ∈ before, other.claimant ≠ token.claimantId := by
  obtain ⟨standing, site, earlier, taken⟩ := progress.claim_of_token holds won
  exact earlier.hasWon_eq_false.mp ((Token.admitted_of_claim taken).fresh single)

end

theorem Progress.registered (progress : Progress (standard unclaimed) pattern claims tally) :
    tally.Standard :=
  progress.standardTally (Lexicon.holdsTokens_standard unclaimed)

/-- A claim of a run, with the text from its first character on. -/
theorem answer_at {start : Nat} {claim : Claim} {after : Tally}
    (answer : (standard unclaimed).dispatch tally (siteAt pattern start) = .ok (claim, after)) :
    ∃ c rest, pattern.toList.drop start = c :: rest ∧
      Answer unclaimed tally pattern (siteAt pattern start).position c rest claim := by
  obtain ⟨c, rest, text⟩ := siteAt_of_dispatch answer
  simp only [siteAt, text] at answer
  exact ⟨c, rest, text, (Lexicon.answer_of_dispatch answer).2⟩

end NumberPattern.Scan
