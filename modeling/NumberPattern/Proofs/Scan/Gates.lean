import NumberPattern.Proofs.Scan.Loop

/-! The gates of the standard tokens. Other claimants may take characters first, skip ahead or claim between
two tokens: at every claim of a token the tally tells which tokens own a cell to the left of it. -/

namespace NumberPattern.Scan
open Lexicon (standard)

/-- The claim at the cell is one of the token. -/
def OwnedBy (claims : List Claim) (cell : Nat) (token : Token) : Prop :=
  ∃ claim, claims[cell]? = some claim ∧ claim.claimant = token.claimantId

/-- The tokens whose cells keep a currency symbol behind them from carrying the sign. -/
def signBearers : List Token := [.integer, .point, .minus, .openParen]

/-- What the gates of the tokens ensure for the cells of a pattern. -/
structure Gated (claims : List Claim) : Prop where
  single : ∀ token : Token, token.isSingle = true → ∀ cell other,
    OwnedBy claims cell token → OwnedBy claims other token → cell = other
  integerFirst : ∀ cell other, OwnedBy claims cell .integer → OwnedBy claims other .point → cell < other
  prior : ∀ token prior : Token, token.prerequisite? = some prior → ∀ cell,
    OwnedBy claims cell token → ∃ other < cell, OwnedBy claims other prior
  decimals : ∀ (cell : Nat) (claim : Claim), claims[cell]? = some claim →
    claim.claimant = Token.decimals.claimantId →
    ∃ places optional, claim.step.action = .decimals places optional ∧ 1 ≤ places ∧ optional ≤ places ∧
      claim.step.fragment = some ⟨some places, some optional⟩
  currency : ∀ (cell : Nat) (claim : Claim), claims[cell]? = some claim →
    claim.claimant = Token.currency.claimantId →
    ∃ carriesSign, claim.step.action = .currency carriesSign ∧
      (carriesSign = true ↔ ∀ token ∈ signBearers, ∀ other < cell, ¬ OwnedBy claims other token)

variable {lexicon : Lexicon} {pattern : String} {claims : List Claim} {claim : Claim} {tally : Tally}
  {token : Token} {cell other : Nat}

theorem split_at_cell (found : claims[cell]? = some claim) :
    claims = claims.take cell ++ claim :: claims.drop (cell + 1) := by
  obtain ⟨inside, rfl⟩ := List.getElem?_eq_some_iff.mp found
  exact split_at inside

theorem exists_mem_take_iff :
    (∃ claim ∈ claims.take cell, claim.claimant = token.claimantId) ↔
      ∃ other < cell, OwnedBy claims other token := by
  constructor
  · rintro ⟨claim, member, won⟩
    obtain ⟨other, inside, rfl⟩ := List.mem_take_iff_getElem.mp member
    exact ⟨other, by omega, _, List.getElem?_eq_getElem (by omega), won⟩
  · rintro ⟨other, earlier, claim, found, won⟩
    obtain ⟨inside, rfl⟩ := List.getElem?_eq_some_iff.mp found
    exact ⟨_, List.mem_take_iff_getElem.mpr ⟨other, by omega, rfl⟩, won⟩

section
variable (holds : lexicon.HoldsTokens) (progress : Progress lexicon pattern claims tally)
include holds progress

/-- At a cell of a token, the token took the claim on a tally of the claims to the left. -/
theorem Progress.taken_at (found : claims[cell]? = some claim)
    (won : claim.claimant = token.claimantId) :
    ∃ standing site, token.claim token.claimantId standing site = .ok (some claim.step) ∧
      ∀ other, standing.hasToken other = true ↔ ∃ earlier < cell, OwnedBy claims earlier other := by
  rw [split_at_cell found] at progress
  obtain ⟨standing, site, earlier, taken⟩ := progress.claim_of_token holds won
  refine ⟨standing, site, taken, fun other => ?_⟩
  rw [(earlier.standardTally holds).hasToken, earlier.hasWon_iff, exists_mem_take_iff]

theorem Progress.not_before (single : token.isSingle = true) (own : OwnedBy claims cell token)
    (own' : OwnedBy claims other token) : ¬ other < cell := by
  obtain ⟨claim, found, won⟩ := own
  intro earlier
  rw [split_at_cell found] at progress
  obtain ⟨claim', member, won'⟩ := exists_mem_take_iff.mpr ⟨other, earlier, own'⟩
  exact progress.single_claimed holds won single claim' member won'

theorem Progress.prior_owned {prior : Token} (needs : token.prerequisite? = some prior)
    (own : OwnedBy claims cell token) : ∃ other < cell, OwnedBy claims other prior := by
  obtain ⟨claim, found, won⟩ := own
  rw [split_at_cell found] at progress
  exact exists_mem_take_iff.mp (progress.prior_claimed holds won needs)

/-- An integer is claimed where no point stands to the left, and the two are not one claim. -/
theorem Progress.integer_before_point (integer : OwnedBy claims cell .integer)
    (point : OwnedBy claims other .point) : cell < other := by
  obtain ⟨claim, found, won⟩ := integer
  obtain ⟨standing, site, taken, left⟩ := progress.taken_at holds found won
  have noPoint : ¬ standing.hasToken .point = true := by
    simp [(Token.admitted_of_claim taken).noPoint rfl]
  apply Nat.lt_of_le_of_ne (Nat.le_of_not_lt fun earlier => noPoint ((left _).mpr ⟨other, earlier, point⟩))
  rintro rfl
  obtain ⟨claim', found', won'⟩ := point
  cases found.symm.trans found'
  cases won.symm.trans won'

theorem Progress.decimals_at (found : claims[cell]? = some claim)
    (won : claim.claimant = Token.decimals.claimantId) :
    ∃ places optional, claim.step.action = .decimals places optional ∧ 1 ≤ places ∧ optional ≤ places ∧
      claim.step.fragment = some ⟨some places, some optional⟩ := by
  obtain ⟨standing, site, taken, _⟩ := progress.taken_at holds found won
  have made := Token.made_of_claim taken
  obtain ⟨places, optional, action⟩ := Action.eq_decimals made.action
  obtain ⟨some_, within⟩ := made.optional places optional action
  exact ⟨places, optional, action, some_, within, by rw [made.fragment, action]; rfl⟩

theorem Progress.currency_at (found : claims[cell]? = some claim)
    (won : claim.claimant = Token.currency.claimantId) :
    ∃ carriesSign, claim.step.action = .currency carriesSign ∧
      (carriesSign = true ↔ ∀ token ∈ signBearers, ∀ other < cell, ¬ OwnedBy claims other token) := by
  obtain ⟨standing, site, taken, left⟩ := progress.taken_at holds found won
  have made : Token.plain (.currency (Token.currencyCarriesSign standing)) Weight.currency =
      .ok (some claim.step) := (Token.claim_eq_some taken).2
  refine ⟨Token.currencyCarriesSign standing, ?_, ?_⟩
  · rw [Token.plain, Except.ok.injEq, Option.some.injEq] at made
    rw [← made]
  · have free (token : Token) :
        standing.hasToken token = false ↔ ∀ other < cell, ¬ OwnedBy claims other token := by
      rw [← Bool.not_eq_true, left]
      simp only [not_exists, not_and]
    simp [Token.currencyCarriesSign, signBearers, free, and_assoc]

theorem Progress.gated : Gated claims where
  single := by
    intro token single cell other own own'
    have notBefore := progress.not_before holds single own own'
    have notAfter := progress.not_before holds single own' own
    omega
  integerFirst := fun _ _ => progress.integer_before_point holds
  prior := fun _ _ needs _ => progress.prior_owned holds needs
  decimals := fun _ _ => progress.decimals_at holds
  currency := fun _ _ => progress.currency_at holds

end

/-- Whoever else is registered, and whatever the others take, the gates of the standard tokens hold in
every pattern that compiles. A cursor of 64 bits comes to the same claims, unless they take more than it can
count. -/
theorem gates_hold (unclaimed : Unclaimed) (claimants : List Claimant) (serial : Nat) (pattern : String)
    (plan : Plan)
    (compiled : Plan.compile ((standard unclaimed).registerAll claimants) serial pattern = .ok plan) :
    ∃ claims, Plan.scan ((standard unclaimed).registerAll claimants) pattern = .ok claims ∧
      Plan.Arranges ((standard unclaimed).registerAll claimants) serial claims plan ∧ Gated claims ∧
      Loop.Makes ((standard unclaimed).registerAll claimants) pattern claims := by
  obtain ⟨claims, scanned, rfl⟩ := Plan.compile_eq_ok_iff.mp compiled
  obtain ⟨tally, progress, _⟩ := scan_eq_ok_iff.mp scanned
  exact ⟨claims, scanned, Plan.arranges_ofClaims .., progress.gated (Lexicon.holdsTokens_registerAll ..),
    Loop.makes_of_scan scanned⟩

/-- A claimant that makes an integer of its own and takes the next character with it. -/
def intruder : Claimant := .taking "x" { action := .integer, weight := 0, consumed := 1 }

/-- The integer of another claimant closes no gate: the symbol behind it carries the sign, and the token
claims an integer of its own. -/
theorem gates_hold_intruder :
    ∃ plan claims, Plan.compile ((standard .echo).registerAll [intruder]) 0 "x0$0.0" = .ok plan ∧
      Plan.scan ((standard .echo).registerAll [intruder]) "x0$0.0" = .ok claims ∧
      claims.length = 5 ∧ OwnedBy claims 1 .currency ∧ OwnedBy claims 2 .integer ∧ Gated claims := by
  let lexicon := (standard .echo).registerAll [intruder]
  let claims : List Claim :=
    [⟨⟨16⟩, { action := .integer, weight := 0, consumed := 1 }⟩,
      ⟨⟨14⟩, { action := .currency true, weight := Weight.currency }⟩,
      ⟨⟨7⟩, { action := .integer, weight := Weight.integer }⟩,
      ⟨⟨11⟩, { action := .point false, weight := Weight.delimiter }⟩,
      ⟨⟨12⟩, Token.decimalsStep 1 0 0⟩]
  have scanned : Plan.scan lexicon "x0$0.0" = .ok claims := rfl
  have compiled : Plan.compile lexicon 0 "x0$0.0" = .ok (Plan.ofClaims lexicon 0 "x0$0.0" claims) :=
    Plan.compile_eq_ok_iff.mpr ⟨claims, scanned, rfl⟩
  obtain ⟨found, scanned', _, gated, _⟩ := gates_hold .echo [intruder] 0 "x0$0.0" _ compiled
  cases scanned.symm.trans scanned'
  exact ⟨_, claims, compiled, scanned, rfl, ⟨_, rfl, rfl⟩, ⟨_, rfl, rfl⟩, gated⟩

end NumberPattern.Scan
