import NumberPattern.Proofs.Lexicon.Answer

/-! Lexicons in which nothing but the standard tokens is ever claimed. On one site they all give the same
answer, unclaimed text apart. -/

namespace NumberPattern

/-- The tallies agree on what the standard tokens can ask. -/
structure Tally.Alike (tally other : Tally) : Prop where
  standard : tally.Standard
  standard' : other.Standard
  hasWon : ∀ token : Token, tally.hasWon token.claimantId = other.hasWon token.claimantId

namespace Tally

variable {tally other : Tally}

theorem hasWon_record (tally : Tally) (id other : ClaimantId) :
    (tally.record id).hasWon other = (tally.hasWon other || decide (id = other)) := by
  rw [hasWon, hasWon, times_record]
  by_cases same : id = other <;> simp [same]

theorem Alike.record_token (alike : tally.Alike other) (id : ClaimantId) :
    (tally.record id).Alike (other.record id) :=
  ⟨alike.standard, alike.standard', fun token => by rw [hasWon_record, hasWon_record, alike.hasWon]⟩

/-- How often text was left unclaimed is nothing that a token asks. -/
theorem hasWon_record_fallback (tally : Tally) (token : Token) :
    (tally.record Lexicon.fallbackId).hasWon token.claimantId = tally.hasWon token.claimantId := by
  rw [hasWon_record, decide_eq_false (Token.claimantId_ne_fallback token).symm, Bool.or_false]

theorem Alike.symm (alike : tally.Alike other) : other.Alike tally :=
  ⟨alike.standard', alike.standard, fun token => (alike.hasWon token).symm⟩

theorem Alike.record_fallback (alike : tally.Alike other) : tally.Alike (other.record Lexicon.fallbackId) :=
  ⟨alike.standard, alike.standard', fun token => by rw [hasWon_record_fallback, alike.hasWon]⟩

end Tally

namespace Token

variable {tally other : Tally}

theorem claim_congr (alike : tally.Alike other) (token : Token) (site : Site) :
    token.claim token.claimantId tally site = token.claim token.claimantId other site := by
  have hasToken : tally.hasToken = other.hasToken := by
    funext prior
    rw [alike.standard.hasToken, alike.standard'.hasToken, alike.hasWon]
  have offers : token.offer tally site = token.offer other site := by
    cases token with
    | currency => simp only [offer, currencyCarriesSign, hasToken]
    | _ => rfl
  rw [claim_eq, claim_eq, admits, admits, hasToken, alike.hasWon, offers]

end Token

namespace Lexicon

/-- The first claim that the tokens of a character make of a site. -/
def tokenClaim (tally : Tally) (site : Site) (c : Char) : Except Failure (Option Claim) :=
  firstClaim tally site ((Token.calledBy c).map Token.entry)

/-- Each character leads to the claims of the standard tokens and to no others. -/
structure TokensOnly (lexicon : Lexicon) : Prop where
  tokens : lexicon.tokens = Token.all.map fun token => (token, token.claimantId)
  firstClaim : ∀ c tally site, firstClaim tally site (lexicon.called c) = tokenClaim tally site c

theorem tokensOnly_standard (unclaimed : Unclaimed) : (standard unclaimed).TokensOnly :=
  ⟨standard_tokens unclaimed, fun c tally site => by rw [called_standard]; rfl⟩

variable {lexicon other : Lexicon} {tally tally' : Tally} {site : Site} {c : Char} {claim : Claim}

theorem tokenClaim_congr (alike : tally.Alike tally') (site : Site) (c : Char) :
    tokenClaim tally site c = tokenClaim tally' site c := by
  unfold tokenClaim
  induction Token.calledBy c with
  | nil => rfl
  | cons token tokens ih =>
    have same : (Token.entry token).claimant.claim (Token.entry token).id tally site =
        (Token.entry token).claimant.claim (Token.entry token).id tally' site :=
      Token.claim_congr alike token site
    rw [List.map_cons, firstClaim, firstClaim, same, ih]

theorem tokenClaim_eq_some (found : tokenClaim tally site c = .ok (some claim)) :
    ∃ (token : Token) (step : Step), c ∈ token.triggers.toList ∧
      token.claim token.claimantId tally site = .ok (some step) ∧ claim = ⟨token.claimantId, step⟩ := by
  obtain ⟨before, entry, rest, split, _, winner, made⟩ := firstClaim_eq_some found
  have called : entry ∈ (Token.calledBy c).map Token.entry := by simp [split]
  obtain ⟨token, calls, rfl⟩ := List.mem_map.mp called
  obtain ⟨claimant, step⟩ := claim
  cases winner
  exact ⟨token, step, Token.mem_calledBy.mp calls, made, rfl⟩

variable {pattern : String} {position : Nat} {rest : List Char} {error : Failure}

theorem TokensOnly.dispatch_error (only : lexicon.TokensOnly)
    (refused : tokenClaim tally ⟨pattern, position, c :: rest⟩ c = .error error) :
    lexicon.dispatch tally ⟨pattern, position, c :: rest⟩ = .error error := by
  simp only [dispatch, only.firstClaim, refused]

theorem TokensOnly.dispatch_some (only : lexicon.TokensOnly)
    (made : tokenClaim tally ⟨pattern, position, c :: rest⟩ c = .ok (some claim)) :
    lexicon.dispatch tally ⟨pattern, position, c :: rest⟩ = .ok (claim, tally.record claim.claimant) := by
  simp only [dispatch, only.firstClaim, made]

theorem TokensOnly.dispatch_none (only : lexicon.TokensOnly)
    (declined : tokenClaim tally ⟨pattern, position, c :: rest⟩ c = .ok none) :
    lexicon.dispatch tally ⟨pattern, position, c :: rest⟩ =
      .ok (⟨fallbackId, lexicon.fallbackStep c rest⟩, tally.record fallbackId) := by
  simp only [dispatch, only.firstClaim, declined]

/-- A claim is that of the first token that takes the site, or unclaimed text where none does. -/
theorem TokensOnly.dispatch_eq_ok (only : lexicon.TokensOnly)
    (answer : lexicon.dispatch tally ⟨pattern, position, c :: rest⟩ = .ok (claim, tally')) :
    tally' = tally.record claim.claimant ∧
      (tokenClaim tally ⟨pattern, position, c :: rest⟩ c = .ok (some claim) ∨
        tokenClaim tally ⟨pattern, position, c :: rest⟩ c = .ok none ∧
          claim = ⟨fallbackId, lexicon.fallbackStep c rest⟩) := by
  cases made : tokenClaim tally ⟨pattern, position, c :: rest⟩ c with
  | error error => cases (only.dispatch_error made).symm.trans answer
  | ok won =>
    cases won with
    | none =>
      cases (only.dispatch_none made).symm.trans answer
      exact ⟨rfl, Or.inr ⟨rfl, rfl⟩⟩
    | some token =>
      cases (only.dispatch_some made).symm.trans answer
      exact ⟨rfl, Or.inl rfl⟩

theorem TokensOnly.dispatch_eq_error (only : lexicon.TokensOnly)
    (refused : lexicon.dispatch tally ⟨pattern, position, c :: rest⟩ = .error error) :
    tokenClaim tally ⟨pattern, position, c :: rest⟩ c = .error error := by
  cases made : tokenClaim tally ⟨pattern, position, c :: rest⟩ c with
  | error fault =>
    cases (only.dispatch_error made).symm.trans refused
    rfl
  | ok won =>
    cases won with
    | none => cases (only.dispatch_none made).symm.trans refused
    | some token => cases (only.dispatch_some made).symm.trans refused

/-- A character of which no token ever claims anything. -/
def Idle (c : Char) : Prop := ∀ tally site, tokenClaim tally site c = .ok none

/-- What unclaimed text takes beyond its first character is of no interest to any token. -/
theorem TokensOnly.idle_fallback (only : lexicon.TokensOnly) {d : Char}
    (swallowed : d ∈ rest.take (lexicon.fallbackStep c rest).consumed) : Idle d := by
  unfold fallbackStep at swallowed
  cases rule : lexicon.unclaimed with
  | skip => simp [rule] at swallowed
  | echo =>
    simp only [rule] at swallowed
    rw [← List.prefix_iff_eq_take.mp (List.takeWhile_prefix _)] at swallowed
    have stopped := List.all_eq_true.mp List.all_takeWhile d swallowed
    have unknown : lexicon.index.lookup d = none := by simpa [isTrigger] using stopped
    intro tally site
    rw [← only.firstClaim, called, unknown]
    rfl

end Lexicon

end NumberPattern
