import NumberPattern.Proofs.Lexicon.Standard
import NumberPattern.Proofs.Token.Step

/-! What the standard lexicon answers at a site: the claim of a token, unclaimed text, or one of two
faults. -/

namespace NumberPattern.Lexicon
open Token (NotAt OpenDecimals Spells)

variable {unclaimed : Unclaimed} {tally after : Tally} {pattern : String} {position : Nat} {c : Char}
  {rest : List Char} {claim : Claim} {error : Failure}

/-- The claims that the standard lexicon can make of a site. -/
inductive Answer (unclaimed : Unclaimed) (tally : Tally) (pattern : String) (position : Nat) (c : Char)
    (rest : List Char) : Claim → Prop where
  | token (token : Token) (step : Step) (calls : c ∈ token.triggers.toList)
      (taken : token.claim token.claimantId tally ⟨pattern, position, c :: rest⟩ = .ok (some step)) :
      Answer unclaimed tally pattern position c rest ⟨token.claimantId, step⟩
  | unclaimed (declined : ∀ token : Token, c ∈ token.triggers.toList →
        token.claim token.claimantId tally ⟨pattern, position, c :: rest⟩ = .ok none) :
      Answer unclaimed tally pattern position c rest
        ⟨fallbackId, (standard unclaimed).fallbackStep c rest⟩

theorem answer_of_dispatch
    (answer : (standard unclaimed).dispatch tally ⟨pattern, position, c :: rest⟩ = .ok (claim, after)) :
    after = tally.record claim.claimant ∧ Answer unclaimed tally pattern position c rest claim := by
  obtain ⟨recorded, ⟨entry, called, winner, made⟩ | ⟨rfl, declined⟩⟩ := dispatch_eq_ok answer
  · rw [called_standard] at called
    obtain ⟨token, calls, rfl⟩ := List.mem_map.mp called
    obtain ⟨claimant, step⟩ := claim
    cases winner
    exact ⟨recorded, .token token step (Token.mem_calledBy.mp calls) made⟩
  · refine ⟨recorded, .unclaimed fun token calls => declined token.entry ?_⟩
    rw [called_standard]
    exact List.mem_map_of_mem (Token.mem_calledBy.mpr calls)

/-- What is claimed under the number of a token was taken by the token, which the character calls. -/
theorem Answer.taken {token : Token} (answer : Answer unclaimed tally pattern position c rest claim)
    (won : claim.claimant = token.claimantId) :
    c ∈ token.triggers.toList ∧
      token.claim token.claimantId tally ⟨pattern, position, c :: rest⟩ = .ok (some claim.step) := by
  cases answer with
  | token other step calls taken =>
    obtain rfl : other = token := Token.claimantId_injective won
    exact ⟨calls, taken⟩
  | unclaimed declined => exact absurd won.symm (Token.claimantId_ne_fallback token)

theorem consumed_fallbackStep (lexicon : Lexicon) :
    (lexicon.fallbackStep c rest).consumed ≤ rest.length := by
  unfold fallbackStep
  cases lexicon.unclaimed with
  | echo => exact (List.takeWhile_prefix _).length_le
  | skip => exact Nat.zero_le _

/-- No claim reaches beyond the end of the text. -/
theorem Answer.consumed_le (answer : Answer unclaimed tally pattern position c rest claim) :
    claim.step.consumed ≤ rest.length := by
  cases answer with
  | token token step calls taken => exact (Token.spells_of_claim calls taken).1
  | unclaimed declined => exact consumed_fallbackStep _

theorem mem_take_fallbackStep {d : Char}
    (swallowed : d ∈ rest.take ((standard unclaimed).fallbackStep c rest).consumed) :
    d ∉ Token.callers := by
  cases unclaimed with
  | echo =>
    simp only [fallbackStep, unclaimed_standard] at swallowed
    rw [← List.prefix_iff_eq_take.mp (List.takeWhile_prefix _)] at swallowed
    have stopped := List.all_eq_true.mp List.all_takeWhile d swallowed
    simpa [isTrigger_standard] using stopped
  | skip => simp [fallbackStep, unclaimed_standard] at swallowed

/-- Before the point is claimed, no claim but that of the point itself swallows a point or a bracket. -/
theorem Answer.plain_tail (answer : Answer unclaimed tally pattern position c rest claim)
    (standard : tally.Standard) (noPoint : tally.hasWon Token.point.claimantId = false)
    (other : claim.claimant ≠ Token.point.claimantId) :
    '.' ∉ rest.take claim.step.consumed ∧ '[' ∉ rest.take claim.step.consumed := by
  cases answer with
  | token token step calls taken =>
    have spelled := (Token.spells_of_claim calls taken).2
    refine spelled.plain_tail (fun same => other (same ▸ rfl)) ?_
    rintro rfl
    have gate := (Token.admitted_of_claim taken).prior .point rfl
    rw [standard.hasToken, noPoint] at gate
    cases gate
  | unclaimed declined =>
    exact ⟨fun swallowed => mem_take_fallbackStep swallowed (by decide),
      fun swallowed => mem_take_fallbackStep swallowed (by decide)⟩

theorem clock_declines {m : Nat} {text : List Char} (opened : OpenDecimals m text) :
    Token.clockTemplate.isPrefixOf text = false := by
  rw [Bool.eq_false_iff]
  intro template
  obtain ⟨after, rfl⟩ := List.isPrefixOf_iff_prefix.mp template
  obtain ⟨rfl, unclosed⟩ := Token.openDecimals_iff.mp opened
  cases unclosed

theorem firstClaim_openDecimals {m : Nat} (standard : tally.Standard)
    (point : tally.hasWon Token.point.claimantId = true)
    (fresh : tally.hasWon Token.decimals.claimantId = false) (opened : OpenDecimals m (c :: rest)) :
    firstClaim tally ⟨pattern, position, c :: rest⟩ ((Token.calledBy c).map Token.entry) =
      .error (.malformed ⟨pattern, position + m, .openDecimals⟩) := by
  have refused : Token.decimals.claim Token.decimals.claimantId tally ⟨pattern, position, c :: rest⟩ =
      .error (.malformed ⟨pattern, position + m, .openDecimals⟩) := by
    simp only [Token.claim, fresh, standard.hasToken, point]
    exact Token.claimDecimals_eq_error.mpr ⟨m, opened, rfl⟩
  have asked : firstClaim tally ⟨pattern, position, c :: rest⟩ [Token.decimals.entry] =
      .error (.malformed ⟨pattern, position + m, .openDecimals⟩) := by
    simp only [firstClaim, Token.entry, Token.claimant, refused]
  have head : c = '[' ∨ c = '0' := by
    obtain ⟨count, inner, text, _⟩ := opened
    cases m with
    | zero => cases text; exact Or.inl rfl
    | succ m => cases text; exact Or.inr rfl
  rcases head with rfl | rfl
  · have pointDeclines : Entry.Declines Token.point.entry tally ⟨pattern, position, '[' :: rest⟩ := by
      simp only [Entry.Declines, Token.entry, Token.claimant, Token.claim, point]
      rfl
    exact (firstClaim_skip pointDeclines).trans asked
  · have clockDeclines : Entry.Declines Token.clock.entry tally ⟨pattern, position, '0' :: rest⟩ := by
      simp only [Entry.Declines, Token.entry, Token.claimant, Token.claim, clock_declines opened]
      rfl
    have integerDeclines : Entry.Declines Token.integer.entry tally ⟨pattern, position, '0' :: rest⟩ := by
      simp only [Entry.Declines, Token.entry, Token.claimant, Token.claim, standard.hasToken, point]
      simp
    exact (firstClaim_skip clockDeclines).trans ((firstClaim_skip integerDeclines).trans asked)

theorem firstClaim_openPoint (fresh : tally.hasWon Token.point.claimantId = false)
    (opened : NotAt ']' rest) :
    firstClaim tally ⟨pattern, position, '[' :: '.' :: rest⟩ ((Token.calledBy '[').map Token.entry) =
      .error (.malformed ⟨pattern, position, .openPoint⟩) := by
  have refused : Token.point.claim Token.point.claimantId tally ⟨pattern, position, '[' :: '.' :: rest⟩ =
      .error (.malformed ⟨pattern, position, .openPoint⟩) := by
    simp only [Token.claim, fresh]
    exact Token.claimPoint_eq_error.mpr ⟨rest, rfl, opened, rfl⟩
  simp only [Token.calledBy, List.map, firstClaim, Token.entry, Token.claimant, refused]

theorem dispatch_standard_error
    (answer : (standard unclaimed).dispatch tally ⟨pattern, position, c :: rest⟩ = .error error) :
    ∃ token : Token, token.claim token.claimantId tally ⟨pattern, position, c :: rest⟩ = .error error := by
  obtain ⟨entry, called, refused⟩ := dispatch_eq_error answer
  rw [called_standard] at called
  obtain ⟨token, _, rfl⟩ := List.mem_map.mp called
  exact ⟨token, refused⟩

/-- The two faults of a pattern: before any point was claimed, a point opened by a bracket that does not
close; after it, decimals with such a bracket. -/
theorem dispatch_eq_error_iff (registered : tally.Standard) :
    (standard unclaimed).dispatch tally ⟨pattern, position, c :: rest⟩ = .error error ↔
      tally.hasWon Token.point.claimantId = false ∧
        (∃ after, c :: rest = '[' :: '.' :: after ∧ NotAt ']' after) ∧
        error = .malformed ⟨pattern, position, .openPoint⟩ ∨
      tally.hasWon Token.point.claimantId = true ∧ tally.hasWon Token.decimals.claimantId = false ∧
        ∃ mandatory, OpenDecimals mandatory (c :: rest) ∧
          error = .malformed ⟨pattern, position + mandatory, .openDecimals⟩ := by
  constructor
  · intro answer
    obtain ⟨token, refused⟩ := dispatch_standard_error answer
    obtain ⟨fresh, ⟨rfl, point⟩ | ⟨rfl, gate, decimals⟩⟩ := Token.claim_eq_error refused
    · obtain ⟨after, text, opened, rfl⟩ := Token.claimPoint_eq_error.mp point
      exact Or.inl ⟨fresh, ⟨after, text, opened⟩, rfl⟩
    · obtain ⟨mandatory, opened, rfl⟩ := Token.claimDecimals_eq_error.mp decimals
      rw [registered.hasToken] at gate
      exact Or.inr ⟨gate, fresh, mandatory, opened, rfl⟩
  · rintro (⟨fresh, ⟨after, text, opened⟩, rfl⟩ | ⟨point, fresh, mandatory, opened, rfl⟩)
    · cases text
      apply dispatch_of_error
      rw [called_standard]
      exact firstClaim_openPoint fresh opened
    · apply dispatch_of_error
      rw [called_standard]
      exact firstClaim_openDecimals registered point fresh opened

end NumberPattern.Lexicon
