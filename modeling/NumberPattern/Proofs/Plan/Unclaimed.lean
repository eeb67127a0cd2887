import Mathlib.Data.List.Find
import Mathlib.Data.List.Nodup
import Mathlib.Logic.Relator
import NumberPattern.Proofs.Plan.Standard
import NumberPattern.Proofs.Scan.Pieces

/-! Plans in which nothing but tokens is claimed. However the unclaimed text is divided, the tokens come in
one order, at other cells only: the cells are paired in that order, the steps of tokens run before all
others, and what a step looks for stands at paired cells. -/

namespace NumberPattern
open Lexicon (standard fallbackId)

namespace Action

/-- The text that the action writes, whatever the run. -/
def literal? : Action → Option String
  | literal text => some text
  | _ => none

theorem fragment?_of_untaken {action : Action} (free : action.token? = none) : action.fragment? = none := by
  cases action with
  | decimals places optional => cases free
  | _ => rfl

end Action

namespace Scan

/-- What can be claimed behind the first `start` characters, where nothing but tokens is claimed. -/
inductive Stands (lexicon : Lexicon) (pattern : String) (start : Nat) : Claim → Prop where
  | token {tally : Tally} {site : Site} (token : Token) (step : Step)
      (taken : token.claim token.claimantId tally site = .ok (some step)) :
      Stands lexicon pattern start ⟨token.claimantId, step⟩
  | unclaimed {c : Char} {rest : List Char} (text : pattern.toList.drop start = c :: rest) :
      Stands lexicon pattern start ⟨fallbackId, lexicon.fallbackStep c rest⟩

variable {lexicon : Lexicon} {pattern : String} {claims : List Claim} {claim : Claim}
  {tally after : Tally} {start : Nat}

theorem stands_of_dispatch (only : lexicon.TokensOnly)
    (answer : lexicon.dispatch tally (siteAt pattern start) = .ok (claim, after)) :
    Stands lexicon pattern start claim := by
  obtain ⟨c, rest, text⟩ := siteAt_of_dispatch answer
  simp only [siteAt, text] at answer
  obtain ⟨_, made | ⟨_, rfl⟩⟩ := only.dispatch_eq_ok answer
  · obtain ⟨token, step, _, taken, rfl⟩ := Lexicon.tokenClaim_eq_some made
    exact .token token step taken
  · exact .unclaimed text

theorem Progress.stands (only : lexicon.TokensOnly) (progress : Progress lexicon pattern claims tally) :
    ∀ item ∈ located 0 claims, Stands lexicon pattern item.1 item.2 := by
  induction progress with
  | start => simp [located]
  | next before answer ih =>
    simp only [located_append, located, List.forall_mem_append, List.forall_mem_singleton, Nat.zero_add]
    exact ⟨ih, stands_of_dispatch only answer⟩

theorem Stands.standard (stands : Stands lexicon pattern start claim) (unclaimed : Unclaimed) :
    claim.Standard unclaimed := by
  cases stands with
  | token token step taken => exact standard_of_taken taken
  | unclaimed text => exact standard_of_fallback lexicon _ _

theorem Stands.isToken (stands : Stands lexicon pattern start claim) :
    claim.isToken = claim.step.action.token?.isSome := by
  cases stands with
  | token token step taken => simp [Claim.isToken, (Token.made_of_claim taken).action]
  | unclaimed text =>
    rw [Lexicon.fallbackStep]
    cases lexicon.unclaimed <;> rfl

/-- Unclaimed text is written as it stands, or not at all. -/
theorem Stands.literal (stands : Stands lexicon pattern start claim) (free : claim.isToken = false) :
    claim.step.action.literal? =
      if lexicon.unclaimed = .echo then some (String.ofList (covered pattern start claim)) else none := by
  cases stands with
  | token token step taken => simp [Claim.isToken] at free
  | unclaimed text =>
    cases rule : lexicon.unclaimed with
    | skip => simp [Lexicon.fallbackStep, rule, Action.literal?]
    | echo =>
      rw [covered_echo rule text]
      simp [Lexicon.fallbackStep, rule, Action.literal?]

theorem Progress.stands_somewhere (only : lexicon.TokensOnly)
    (progress : Progress lexicon pattern claims tally) :
    ∀ claim ∈ claims, ∃ start, Stands lexicon pattern start claim := by
  intro claim member
  rw [← map_snd_located 0 claims] at member
  obtain ⟨item, placed, rfl⟩ := List.mem_map.mp member
  exact ⟨item.1, progress.stands only item placed⟩

theorem Progress.standardClaims (only : lexicon.TokensOnly) (progress : Progress lexicon pattern claims tally)
    (unclaimed : Unclaimed) : ∀ claim ∈ claims, claim.Standard unclaimed := by
  intro claim member
  obtain ⟨start, stands⟩ := progress.stands_somewhere only claim member
  exact stands.standard unclaimed

theorem Progress.isToken (only : lexicon.TokensOnly) (progress : Progress lexicon pattern claims tally) :
    ∀ claim ∈ claims, claim.isToken = claim.step.action.token?.isSome := by
  intro claim member
  obtain ⟨start, stands⟩ := progress.stands_somewhere only claim member
  exact stands.isToken

theorem Progress.untaken (only : lexicon.TokensOnly) (progress : Progress lexicon pattern claims tally)
    (member : claim ∈ claims) (free : claim.isToken = false) : claim.step.action.token? = none := by
  rw [progress.isToken only claim member] at free
  simpa using free

end Scan

namespace Plan
open Scan (Progress)

/-- The claims of tokens with their cells, in the order of the text. -/
def tokens (claims : List Claim) : List (Claim × Nat) := claims.zipIdx.filter (·.1.isToken)

/-- The claims of unclaimed text with their cells. -/
def untaken (claims : List Claim) : List (Claim × Nat) := claims.zipIdx.filter (!·.1.isToken)

theorem map_fst_tokens (claims : List Claim) :
    (tokens claims).map Prod.fst = claims.filter Claim.isToken := by
  calc
    _ = (claims.zipIdx.map Prod.fst).filter Claim.isToken := by rw [List.filter_map]; rfl
    _ = claims.filter Claim.isToken := by rw [List.zipIdx_map_fst]

theorem nodup_tokens (claims : List Claim) : ((tokens claims).map Prod.snd).Nodup := by
  have cells : (claims.zipIdx.map Prod.snd).Nodup := by
    rw [List.zipIdx_map_snd]
    exact List.nodup_range'
  exact cells.sublist (List.filter_sublist.map Prod.snd)

theorem lt_of_mem_tokens {claims : List Claim} {cell : Nat} (taken : cell ∈ (tokens claims).map Prod.snd) :
    cell < claims.length := by
  obtain ⟨entry, entered, rfl⟩ := List.mem_map.mp taken
  simpa using List.snd_lt_of_mem_zipIdx (List.mem_of_mem_filter entered)

/-- The cells at which two lists of claims have the same token, counted from the left. -/
def SameToken (claims others : List Claim) (cell cell' : Nat) : Prop :=
  (cell, cell') ∈ ((tokens claims).map Prod.snd).zip ((tokens others).map Prod.snd)

variable {claims others : List Claim}

theorem biUnique_zip {α β : Type} {items : List α} {others : List β} (distinct : items.Nodup)
    (distinct' : others.Nodup) : Relator.BiUnique fun item other => (item, other) ∈ items.zip others := by
  have nth {item : α} {other : β} (member : (item, other) ∈ items.zip others) :
      ∃ nth, ∃ inside : nth < items.length, ∃ inside' : nth < others.length,
        items[nth] = item ∧ others[nth] = other := by
    obtain ⟨nth, inside, same⟩ := List.mem_iff_getElem.mp member
    have bound := inside
    rw [List.length_zip] at bound
    rw [List.getElem_zip] at same
    exact ⟨nth, by omega, by omega, Prod.mk.inj same⟩
  constructor
  · intro item other item' first second
    obtain ⟨nth₁, _, inside, rfl, rfl⟩ := nth first
    obtain ⟨nth₂, _, inside', rfl, same⟩ := nth second
    obtain rfl := distinct'.getElem_inj_iff.mp same
    rfl
  · intro item other other' first second
    obtain ⟨nth₁, inside, _, rfl, rfl⟩ := nth first
    obtain ⟨nth₂, inside', _, same, rfl⟩ := nth second
    obtain rfl := distinct.getElem_inj_iff.mp same
    rfl

theorem SameToken.biUnique (claims others : List Claim) : Relator.BiUnique (SameToken claims others) :=
  biUnique_zip (nodup_tokens claims) (nodup_tokens others)

/-- The same claim at paired cells. -/
def Twins (claims others : List Claim) (item other : Claim × Nat) : Prop :=
  item.1 = other.1 ∧ SameToken claims others item.2 other.2

theorem twins_tokens (same : claims.filter Claim.isToken = others.filter Claim.isToken) :
    List.Forall₂ (Twins claims others) (tokens claims) (tokens others) := by
  have equal : List.Forall₂ (fun item other : Claim × Nat => item.1 = other.1) (tokens claims)
      (tokens others) := by
    rw [← map_fst_tokens, ← map_fst_tokens] at same
    have all := List.forall₂_eq_eq_eq.symm ▸ same
    exact List.forall₂_map_right_iff.mp (List.forall₂_map_left_iff.mp all)
  obtain ⟨lengths, equal⟩ := List.forall₂_iff_zip.mp equal
  refine List.forall₂_iff_zip.mpr ⟨lengths, fun {item other} member => ⟨equal member, ?_⟩⟩
  rw [SameToken, List.zip_map]
  exact List.mem_map_of_mem (f := Prod.map Prod.snd Prod.snd) member

/-- The first tokens of a kind are at paired cells. -/
theorem rel_find? (kind : Claim → Bool) {items items' : List (Claim × Nat)}
    (all : List.Forall₂ (Twins claims others) items items') :
    Option.Rel (SameToken claims others) ((items.find? (kind ·.1)).map Prod.snd)
      ((items'.find? (kind ·.1)).map Prod.snd) := by
  induction all with
  | nil => exact .none
  | @cons item other items items' first rest ih =>
    rw [List.find?_cons, List.find?_cons, first.1]
    cases kind other.1 with
    | true => exact .some first.2
    | false => exact ih

variable {lexicon lexicon' : Lexicon} {pattern : String} {tally tally' : Tally} {serial serial' : Nat}

theorem token?_of_tokensOnly (only : lexicon.TokensOnly) (unclaimed : Unclaimed) (id : ClaimantId) :
    lexicon.token? id = (standard unclaimed).token? id := by
  rw [Lexicon.token?, Lexicon.token?, only.tokens, Lexicon.standard_tokens]

/-- The cell of a token is that of its first claim. -/
theorem tokenCell_of_tokensOnly (only : lexicon.TokensOnly)
    (progress : Progress lexicon pattern claims tally) (token : Token) :
    (ofClaims lexicon serial pattern claims).layout.tokenCell? token =
      ((tokens claims).find? fun item => item.1.step.action.token? = some token).map Prod.snd := by
  have named : ∀ claim ∈ claims, lexicon.token? claim.claimant = claim.step.action.token? := by
    intro claim member
    rw [token?_of_tokensOnly only .echo, (progress.standardClaims only .echo claim member).token]
  rw [tokenCell_of_named named, List.findIdx?_eq_fst_find?_zipIdx, tokens, List.find?_filter]
  refine congrArg _ (List.find?_congr fun item member => ?_)
  rw [progress.isToken only item.1 (List.fst_mem_of_mem_zipIdx member)]
  by_cases kind : item.1.step.action.token? = some token <;> simp [kind]

/-- What steps look for stands at paired cells. -/
theorem rel_tokenCell (only : lexicon.TokensOnly) (only' : lexicon'.TokensOnly)
    (progress : Progress lexicon pattern claims tally)
    (progress' : Progress lexicon' pattern others tally')
    (same : claims.filter Claim.isToken = others.filter Claim.isToken) (serial serial' : Nat)
    (token : Token) :
    Option.Rel (SameToken claims others)
      ((ofClaims lexicon serial pattern claims).layout.tokenCell? token)
      ((ofClaims lexicon' serial' pattern others).layout.tokenCell? token) := by
  rw [tokenCell_of_tokensOnly only progress, tokenCell_of_tokensOnly only' progress']
  exact rel_find? (fun claim => claim.step.action.token? = some token) (twins_tokens same)

/-- Unclaimed text has no say in the precision. -/
theorem precisionOf_filter (only : lexicon.TokensOnly) (progress : Progress lexicon pattern claims tally) :
    precisionOf (claims.filter Claim.isToken) = precisionOf claims := by
  rw [precisionOf, precisionOf, List.filterMap_filter]
  congr 1
  refine List.filterMap_congr fun claim member => ?_
  split
  · rfl
  · next free =>
    have untaken := progress.untaken only member (Bool.not_eq_true _ ▸ free)
    rw [(progress.standardClaims only .echo claim member).fragment, Action.fragment?_of_untaken untaken]

theorem precisionOf_congr (only : lexicon.TokensOnly) (only' : lexicon'.TokensOnly)
    (progress : Progress lexicon pattern claims tally)
    (progress' : Progress lexicon' pattern others tally')
    (same : claims.filter Claim.isToken = others.filter Claim.isToken) :
    precisionOf claims = precisionOf others := by
  rw [← precisionOf_filter only progress, same, precisionOf_filter only' progress']

/-- Tokens are lighter than unclaimed text. -/
theorem arrange_tokens (only : lexicon.TokensOnly) (progress : Progress lexicon pattern claims tally) :
    arrange claims.zipIdx = arrange (tokens claims) ++ arrange (untaken claims) := by
  have light (token : Token) : token.weight < Weight.literal := by cases token <;> decide
  refine arrange_split (·.1.isToken) fun item member other member' token free => ?_
  have claimed := List.fst_mem_of_mem_zipIdx member
  have left := List.fst_mem_of_mem_zipIdx member'
  rw [progress.isToken only item.1 claimed, Option.isSome_iff_exists] at token
  obtain ⟨kind, known⟩ := token
  rw [(progress.standardClaims only .echo _ claimed).weight, (progress.standardClaims only .echo _ left).weight,
    Action.weight, Action.weight, known, progress.untaken only left free]
  exact light kind

/-- Claims with their cells, as steps of a program. -/
def stepsOf (serial : Nat) (items : List (Claim × Nat)) : List (PlannedStep × Nat) :=
  (arrange items).map fun item => (plannedStep serial item, item.2)

theorem program_of_tokensOnly (only : lexicon.TokensOnly)
    (progress : Progress lexicon pattern claims tally) :
    (ofClaims lexicon serial pattern claims).program =
      stepsOf serial (tokens claims) ++ stepsOf serial (untaken claims) := by
  rw [program_ofClaims, arrange_tokens only progress, List.map_append]
  rfl

theorem mem_stepsOf {items : List (Claim × Nat)} {item : PlannedStep × Nat} :
    item ∈ stepsOf serial items ↔ ∃ entry ∈ items, item = (plannedStep serial entry, entry.2) := by
  simp only [stepsOf, List.mem_map, (arrange_perm items).mem_iff, eq_comm]

end Plan

end NumberPattern
