import NumberPattern.Proofs.Plan.Order
import NumberPattern.Proofs.Scan.Claims

/-! Plans of the standard lexicon: their program runs by weight, every step has a cell of its own, and a
single token has one step, at the cell that the layout names. -/

namespace NumberPattern
open Lexicon (standard fallbackId Answer)

/-- Steps for unclaimed text are the heaviest. -/
def Action.weight (action : Action) : Int := (action.token?.map Token.weight).getD Weight.literal

/-- What the action of a claim of the standard lexicon says about the claim. -/
structure Claim.Standard (unclaimed : Unclaimed) (claim : Claim) : Prop where
  claimant : ∀ token : Token, claim.step.action.token? = some token ↔ claim.claimant = token.claimantId
  token : (standard unclaimed).token? claim.claimant = claim.step.action.token?
  weight : claim.step.weight = claim.step.action.weight
  fragment : claim.step.fragment = claim.step.action.fragment?
  plain : ∀ step, claim.step.action ≠ .custom step
  places : ∀ places optional, claim.step.action = .decimals places optional → 0 < places ∧ optional ≤ places

namespace Scan

variable {unclaimed : Unclaimed} {pattern : String} {claims before after : List Claim} {claim : Claim}
  {tally : Tally} {token : Token}

theorem placed_of_plain {action : Action} (plain : ∀ step, action ≠ .custom step) (serial cell : Nat) :
    action.placed serial cell = action := by
  cases action with
  | custom step => exact absurd rfl (plain step)
  | _ => rfl

theorem standard_of_taken {site : Site} {step : Step}
    (taken : token.claim token.claimantId tally site = .ok (some step)) :
    Claim.Standard unclaimed ⟨token.claimantId, step⟩ := by
  have made := Token.made_of_claim taken
  refine ⟨fun other => ?_, ?_, ?_, made.fragment, fun custom same => ?_, made.optional⟩
  · rw [made.action, Option.some.injEq, Token.claimantId_inj]
  · rw [Lexicon.token_standard, made.action]
  · rw [made.weight, Action.weight, made.action]
    rfl
  · have kind := made.action
    rw [same] at kind
    cases kind

/-- Unclaimed text is of the standard kind in every lexicon. -/
theorem standard_of_fallback (lexicon : Lexicon) (c : Char) (rest : List Char) :
    Claim.Standard unclaimed ⟨fallbackId, lexicon.fallbackStep c rest⟩ := by
  have own (other : Token) : fallbackId ≠ other.claimantId := (Token.claimantId_ne_fallback other).symm
  unfold Lexicon.fallbackStep
  cases lexicon.unclaimed with
  | echo =>
    exact ⟨fun other => by simp [Action.token?, own], Lexicon.token_fallback unclaimed, rfl, rfl, by simp,
      by simp⟩
  | skip =>
    exact ⟨fun other => by simp [Action.token?, own], Lexicon.token_fallback unclaimed, rfl, rfl, by simp,
      by simp⟩

theorem standard_of_answer {position : Nat} {c : Char} {rest : List Char}
    (answer : Answer unclaimed tally pattern position c rest claim) : claim.Standard unclaimed := by
  cases answer with
  | token token step calls taken => exact standard_of_taken taken
  | unclaimed declined => exact standard_of_fallback (standard unclaimed) c rest

theorem Progress.shape (progress : Progress (standard unclaimed) pattern claims tally) :
    ∀ claim ∈ claims, claim.Standard unclaimed := by
  intro claim member
  obtain ⟨before, after, rfl⟩ := List.append_of_mem member
  obtain ⟨standing, next, earlier, answer⟩ := progress.split
  obtain ⟨c, rest, text, made⟩ := answer_at answer
  exact standard_of_answer made

/-- No claim before that of a single token is of the same token. -/
theorem Progress.single (progress : Progress (standard unclaimed) pattern claims tally)
    {cell other : Nat} (inside : cell < claims.length) (kind : claims[cell].step.action.token? = some token)
    (single : token.isSingle = true) (earlier : other < cell) :
    claims[other].step.action.token? ≠ some token := by
  intro same
  have shape := progress.shape
  rw [split_at inside] at progress
  have won := ((shape _ (List.getElem_mem inside)).claimant token).mp kind
  refine progress.single_claimed (Lexicon.holdsTokens_standard unclaimed) won single claims[other] ?_
    (((shape _ (List.getElem_mem _)).claimant token).mp same)
  rw [List.mem_take_iff_getElem]
  exact ⟨other, by omega, rfl⟩

/-- A token has a claim only where its prerequisite has one. -/
theorem Progress.prior (progress : Progress (standard unclaimed) pattern claims tally) {cell : Nat}
    {prior : Token} (inside : cell < claims.length) (kind : claims[cell].step.action.token? = some token)
    (needs : token.prerequisite? = some prior) :
    ∃ other, ∃ within : other < claims.length, claims[other].step.action.token? = some prior := by
  have shape := progress.shape
  rw [split_at inside] at progress
  have won := ((shape _ (List.getElem_mem inside)).claimant token).mp kind
  obtain ⟨claim, member, claimed⟩ :=
    progress.prior_claimed (Lexicon.holdsTokens_standard unclaimed) won needs
  obtain ⟨other, within, rfl⟩ := List.mem_take_iff_getElem.mp member
  exact ⟨other, by omega, ((shape _ (List.getElem_mem _)).claimant prior).mpr claimed⟩

end Scan

namespace Plan

/-- Whether some step of the plan belongs to the token. -/
def has (plan : Plan) (token : Token) : Bool := plan.steps.any (·.action.token? = some token)

theorem has_iff {plan : Plan} (steps : plan.program.map Prod.fst = plan.steps) {token : Token} :
    plan.has token = true ↔ ∃ item ∈ plan.program, item.1.action.token? = some token := by
  simp [has, ← steps]

/-- What holds of every plan of the standard lexicon. -/
structure Regular (plan : Plan) : Prop where
  steps : plan.program.map Prod.fst = plan.steps
  sorted : plan.program.Pairwise fun item other => item.1.action.weight ≤ other.1.action.weight
  distinct : (plan.program.map Prod.snd).Nodup
  inside : ∀ item ∈ plan.program, item.2 < plan.layout.size
  plain : ∀ item ∈ plan.program, ∀ step, item.1.action ≠ .custom step
  /-- A single token has no step but the one at its cell. -/
  cell : ∀ item ∈ plan.program, ∀ token : Token, item.1.action.token? = some token →
    token.isSingle = true → plan.layout.tokenCell? token = some item.2
  /-- The cell of a token has a step of the token. -/
  step : ∀ token cell, plan.layout.tokenCell? token = some cell →
    ∃ item ∈ plan.program, item.2 = cell ∧ item.1.action.token? = some token
  prior : ∀ item ∈ plan.program, ∀ token prior : Token, item.1.action.token? = some token →
    token.prerequisite? = some prior → plan.has prior = true
  /-- The decimals set the precision of the plan. -/
  places : ∀ item ∈ plan.program, ∀ places optional, item.1.action = .decimals places optional →
    plan.precision.places = some places ∧ 0 < places ∧ optional ≤ places

variable {unclaimed : Unclaimed} {serial : Nat} {pattern : String} {claims : List Claim} {tally : Tally}

theorem mem_program_standard (progress : Scan.Progress (standard unclaimed) pattern claims tally)
    {item : PlannedStep × Nat} :
    item ∈ (ofClaims (standard unclaimed) serial pattern claims).program →
      ∃ inside : item.2 < claims.length, item.1.action = claims[item.2].step.action := by
  intro member
  obtain ⟨claim, claimed, planned⟩ := (mem_program_ofClaims ..).mp member
  obtain ⟨inside, rfl⟩ := List.getElem?_eq_some_iff.mp (List.mk_mem_zipIdx_iff_getElem?.mp claimed)
  refine ⟨inside, ?_⟩
  rw [planned, plannedStep]
  exact Scan.placed_of_plain (progress.shape _ (List.getElem_mem inside)).plain _ _

theorem exists_mem_program (serial : Nat)
    (progress : Scan.Progress (standard unclaimed) pattern claims tally)
    {cell : Nat} (inside : cell < claims.length) :
    ∃ item ∈ (ofClaims (standard unclaimed) serial pattern claims).program,
      item.2 = cell ∧ item.1.action = claims[cell].step.action := by
  have member : (plannedStep serial (claims[cell], cell), cell) ∈
      (ofClaims (standard unclaimed) serial pattern claims).program :=
    (mem_program_ofClaims ..).mpr ⟨claims[cell], by simp [List.mk_mem_zipIdx_iff_getElem?, inside], rfl⟩
  obtain ⟨_, same⟩ := mem_program_standard progress member
  exact ⟨_, member, rfl, same⟩

/-- Where the lexicon names the tokens by their actions, the cell of a token is that of its first
action. -/
theorem tokenCell_of_named {lexicon : Lexicon}
    (named : ∀ claim ∈ claims, lexicon.token? claim.claimant = claim.step.action.token?) (token : Token) :
    (ofClaims lexicon serial pattern claims).layout.tokenCell? token =
      claims.findIdx? fun claim => claim.step.action.token? = some token := by
  have keys : (claims.map fun claim => lexicon.token? claim.claimant) =
      claims.map fun claim => claim.step.action.token? := List.map_congr_left named
  simp only [ofClaims, layoutOf, Layout.tokenCell?, keys, Layout.lookup_firstCells, List.findIdx?_map]
  rfl

theorem tokenCell_ofClaims (progress : Scan.Progress (standard unclaimed) pattern claims tally)
    (token : Token) :
    (ofClaims (standard unclaimed) serial pattern claims).layout.tokenCell? token =
      claims.findIdx? fun claim => claim.step.action.token? = some token :=
  tokenCell_of_named (fun claim member => (progress.shape claim member).token) token

theorem steps_ofClaims :
    (ofClaims (standard unclaimed) serial pattern claims).program.map Prod.fst =
      (ofClaims (standard unclaimed) serial pattern claims).steps := by
  rw [program_ofClaims, List.map_map]
  rfl

theorem sorted_ofClaims (progress : Scan.Progress (standard unclaimed) pattern claims tally) :
    (ofClaims (standard unclaimed) serial pattern claims).program.Pairwise
      fun item other => item.1.action.weight ≤ other.1.action.weight := by
  rw [program_ofClaims, List.pairwise_map]
  apply (arrange_sorted claims.zipIdx).imp_of_mem
  intro item other member member' lighter
  have shape (item : Claim × Nat) (member : item ∈ arrange claims.zipIdx) :
      (plannedStep serial item).action.weight = item.1.step.weight := by
    have claimed : item.1 ∈ claims := by
      rw [List.fst_eq_of_mem_zipIdx ((arrange_perm _).mem_iff.mp member)]
      exact List.getElem_mem _
    rw [plannedStep, Scan.placed_of_plain (progress.shape _ claimed).plain,
      (progress.shape _ claimed).weight]
  rw [shape item member, shape other member']
  exact lighter

theorem distinct_ofClaims {lexicon : Lexicon} :
    ((ofClaims lexicon serial pattern claims).program.map Prod.snd).Nodup := by
  have cells : ((arrange claims.zipIdx).map Prod.snd).Perm (List.range' 0 claims.length) := by
    rw [← List.zipIdx_map_snd 0 claims]
    exact (arrange_perm _).map _
  rw [program_ofClaims, List.map_map]
  exact cells.nodup_iff.mpr List.nodup_range'

/-- The fragment of the decimals is the only one. -/
theorem precision_ofClaims (progress : Scan.Progress (standard unclaimed) pattern claims tally) {cell : Nat}
    (inside : cell < claims.length) {places optional : Nat}
    (kind : claims[cell].step.action = .decimals places optional) :
    precisionOf claims = ⟨some places, some optional⟩ := by
  have shape := progress.shape
  have decimals : claims[cell].step.action.token? = some .decimals := congrArg Action.token? kind
  -- fragments belong to decimals, and these are claimed once
  have bare (other : Nat) (within : other < claims.length) (different : other ≠ cell) :
      claims[other].step.fragment = none := by
    rw [(shape _ (List.getElem_mem within)).fragment]
    have foreign : claims[other].step.action.token? ≠ some .decimals := by
      intro same
      rcases Nat.lt_or_gt_of_ne different with earlier | later
      · exact progress.single inside decimals rfl earlier same
      · exact progress.single within same rfl later decimals
    cases action : claims[other].step.action with
    | decimals places optional => exact absurd (congrArg Action.token? action) foreign
    | _ => rfl
  have before : (claims.take cell).filterMap (·.step.fragment) = [] := by
    rw [List.filterMap_eq_nil_iff]
    intro claim member
    obtain ⟨other, within, rfl⟩ := List.mem_take_iff_getElem.mp member
    exact bare other (by omega) (by omega)
  have after : (claims.drop (cell + 1)).filterMap (·.step.fragment) = [] := by
    rw [List.filterMap_eq_nil_iff]
    intro claim member
    obtain ⟨other, within, rfl⟩ := List.mem_drop_iff_getElem.mp member
    exact bare _ _ (by omega)
  have own : claims[cell].step.fragment = some ⟨some places, some optional⟩ := by
    rw [(shape _ (List.getElem_mem inside)).fragment, kind]
    rfl
  rw [precisionOf, ← List.take_append_drop cell claims, List.drop_eq_getElem_cons inside,
    List.filterMap_append, before, List.filterMap_cons, own, after]
  rfl

theorem regular_ofClaims (progress : Scan.Progress (standard unclaimed) pattern claims tally) :
    (ofClaims (standard unclaimed) serial pattern claims).Regular where
  steps := steps_ofClaims
  sorted := sorted_ofClaims progress
  distinct := distinct_ofClaims
  inside := by
    intro item member
    rw [size_ofClaims]
    exact (mem_program_standard progress member).1
  plain := by
    intro item member
    obtain ⟨inside, action⟩ := mem_program_standard progress member
    rw [action]
    exact (progress.shape _ (List.getElem_mem inside)).plain
  cell := by
    intro item member token kind single
    obtain ⟨inside, action⟩ := mem_program_standard progress member
    rw [action] at kind
    rw [tokenCell_ofClaims progress, List.findIdx?_eq_some_iff_getElem]
    refine ⟨inside, by simpa using kind, fun other earlier => ?_⟩
    simpa using progress.single inside kind single earlier
  step := by
    intro token cell found
    rw [tokenCell_ofClaims progress, List.findIdx?_eq_some_iff_getElem] at found
    obtain ⟨inside, kind, _⟩ := found
    obtain ⟨item, member, own, action⟩ := exists_mem_program serial progress inside
    exact ⟨item, member, own, by rw [action]; simpa using kind⟩
  prior := by
    intro item member token prior kind needs
    obtain ⟨inside, action⟩ := mem_program_standard progress member
    rw [action] at kind
    obtain ⟨other, within, found⟩ := progress.prior inside kind needs
    obtain ⟨item, member, _, action⟩ := exists_mem_program serial progress within
    exact (has_iff steps_ofClaims).mpr ⟨item, member, action ▸ found⟩
  places := by
    intro item member places optional decimals
    obtain ⟨inside, action⟩ := mem_program_standard progress member
    rw [action] at decimals
    have precise : (ofClaims (standard unclaimed) serial pattern claims).precision =
        ⟨some places, some optional⟩ :=
      precision_ofClaims progress inside decimals
    exact ⟨by rw [precise], (progress.shape _ (List.getElem_mem inside)).places _ _ decimals⟩

/-- Whatever the standard lexicon compiles is regular. -/
theorem regular_of_compile {plan : Plan}
    (compiled : compile (standard unclaimed) serial pattern = .ok plan) :
    plan.Regular := by
  obtain ⟨claims, scanned, rfl⟩ := compile_eq_ok_iff.mp compiled
  obtain ⟨tally, progress, finished⟩ := Scan.scan_eq_ok_iff.mp scanned
  exact regular_ofClaims progress

end Plan

end NumberPattern
